import GridAudit.Proofs.Coherence

/-!
# Runs of requests to one sheet

Writing texts to cells of one sheet and trying texts there, in any order and however often, leaves
the workbook with that sheet replaced: its texts are those written, and its ledger is some other. So
a run is followed by the sheet written and the ledger alone. What one write and one trial record is
said here, in terms of the workbook before the run and of the sheet as it stands.
-/

namespace GridAudit

/-- A text for a cell of a sheet. -/
structure Entry where
  row : Nat
  column : Nat
  text : String
  deriving DecidableEq

namespace Entry

/-- The cell of an entry. -/
def place (e : Entry) : Nat × Nat := (e.row, e.column)

/-- The request that writes an entry. -/
def commit (name : String) (e : Entry) : Request := .setValueAt name e.row e.column e.text

/-- The request that tries an entry. -/
def trial (name : String) (e : Entry) : Request := .tryValueAt name e.row e.column e.text

end Entry

namespace Sheet

/-- The sheet with another ledger. -/
def recording (s : Sheet) (l : Ledger) : Sheet := { s with ledger := l }

/-- The cells of a sheet are numbered from zero. -/
theorem mem_cellIds {s : Sheet} {id : CellId} :
    id ∈ s.cellIds ↔ id.index < s.rowCount * s.columns := by
  constructor
  · intro h
    obtain ⟨i, hi, rfl⟩ := List.mem_map.mp h
    have hle : (CellId.ofIndex i).index ≤ i := by
      rw [CellId.ofIndex, CellId.index, UInt32.toNat_ofNat']
      exact Nat.mod_le ..
    exact Nat.lt_of_le_of_lt hle (List.mem_range.mp hi)
  · intro h
    exact List.mem_map.mpr ⟨id.index, List.mem_range.mpr h, UInt32.ofNat_toNat⟩

/-- The verdict of a cell is the one in the ledger. -/
theorem verdictAt_recording {s : Sheet} {row column : Nat} (hrow : row < s.rowCount)
    (hcolumn : column < s.columns) (l : Ledger) :
    (s.recording l).verdictAt row column = .ok (l.get? (s.numberOf row column)) := by
  have hcell : (s.recording l).cellId row column = .ok (s.numberOf row column) :=
    cellId_eq_ok.mpr ⟨hrow, hcolumn, rfl⟩
  rw [verdictAt, hcell]
  rfl

/-- Verdicts are read alike from ledgers that agree on the cells of the sheet. -/
theorem verdictAt_recording_congr {s : Sheet} {l l' : Ledger}
    (h : ∀ id ∈ s.cellIds, l.get? id = l'.get? id) (row column : Nat) :
    (s.recording l).verdictAt row column = (s.recording l').verdictAt row column := by
  by_cases hcell : row < s.rowCount ∧ column < s.columns
  · rw [verdictAt_recording hcell.1 hcell.2, verdictAt_recording hcell.1 hcell.2,
      h _ (numberOf_mem_cellIds hcell.1 hcell.2)]
  · have hrefused (l : Ledger) :
        (s.recording l).cellId row column = .error (s.outside row column) := if_neg hcell
    rw [verdictAt, hrefused, verdictAt, hrefused]
    rfl

end Sheet

namespace Workbook

variable {b b' : Workbook} {vars : Variables} {s t : Sheet} {l : Ledger}

/-- The workbook that requests lead to, one after another. -/
def serveAll (b : Workbook) (vars : Variables) (requests : List Request) : Workbook :=
  requests.foldl (fun b request => b.serve vars request) b

/-- A last request is served after the others. -/
theorem serveAll_concat (b : Workbook) (vars : Variables) (requests : List Request)
    (request : Request) :
    b.serveAll vars (requests ++ [request]) = (b.serveAll vars requests).serve vars request :=
  List.foldl_concat ..

/-- Two workbooks with the same text and the same verdict in every cell of every sheet. -/
structure Agrees (b b' : Workbook) : Prop where
  texts : ∀ name row column, b.valueAt name row column = b'.valueAt name row column
  verdicts : ∀ name row column, b.verdictAt name row column = b'.verdictAt name row column

/-- The second workbook is the first with a sheet in place of the one of its name, up to the last
report. -/
structure Replaces (b : Workbook) (t : Sheet) (b' : Workbook) : Prop where
  sheets : b'.sheets = (b.putSheet t).sheets
  config : b'.config = b.config

/-- A ledger decides no text. -/
theorem cellText_putSheet_recording (b : Workbook) (t : Sheet) (l : Ledger) :
    (b.putSheet (t.recording l)).cellText = (b.putSheet t).cellText := by
  apply cellText_of_contents_eq
  simp only [contents, putSheet, List.map_map, Prod.mk.injEq, and_true]
  refine List.map_congr_left fun u _ => ?_
  by_cases hu : u.name = t.name <;> simp [hu, Sheet.recording, Sheet.contents]

/-- In a well-formed workbook a sheet replaces itself. -/
theorem WellFormed.replaces_self (hb : b.WellFormed) (hs : b.sheet? s.name = some s) :
    b.Replaces s b := by
  refine ⟨List.map_id b.sheets ▸ List.map_congr_left fun u hu => ?_, rfl⟩
  by_cases hname : u.name = s.name
  · rw [if_pos hname]
    exact hb.eq_of_name (mem_of_sheet? hs) hu hname
  · exact (if_neg hname).symm

namespace Replaces

/-- The sheet is found where another of its name was. -/
theorem sheet?_eq (h : b.Replaces t b') (hs : b.sheet? t.name = some s) :
    b'.sheet? t.name = some t := by
  have hfound : b'.sheet? t.name = (b.putSheet t).sheet? t.name := by
    rw [sheet?, h.sheets, sheet?]
  rw [hfound, sheet?_putSheet, if_pos rfl, hs, Option.map_some]

/-- Replacing a sheet by a well-formed one keeps a workbook well formed. -/
theorem wellFormed (h : b.Replaces t b') (hb : b.WellFormed) (ht : t.WellFormed) :
    b'.WellFormed := by
  have hput := hb.putSheet ht
  refine ⟨?_, h.sheets ▸ hput.sheets⟩
  rw [sheetNames, h.sheets]
  exact hput.names

/-- Of two sheets of one name the later stays. -/
theorem putSheet (h : b.Replaces t b') {u : Sheet} (hname : t.name = u.name) :
    b.Replaces u (b'.putSheet u) := by
  refine ⟨?_, h.config⟩
  have hsheets : (b'.putSheet u).sheets = ((b.putSheet t).putSheet u).sheets := by
    simp only [Workbook.putSheet, h.sheets]
  rw [hsheets, putSheet_putSheet b hname]

/-- A cell is checked against the texts of the sheet, whatever its ledger. -/
theorem probeCell_eq (h : b.Replaces (t.recording l) b') (vars : Variables) (trial : Option Trial)
    (id : CellId) :
    b'.probeCell vars trial (t.recording l) id = (b.putSheet t).probeCell vars trial t id := by
  have htexts : b'.cellText = (b.putSheet t).cellText := by
    rw [← cellText_putSheet_recording b t l]
    funext a
    simp only [cellText, sheet?, h.sheets]
  have hcells : b'.overlaid trial = (b.putSheet t).overlaid trial := by
    funext a
    simp only [overlaid, htexts]
  simp only [probeCell, hcells]
  rfl

/-- A change of a cell reaches the same cells, whatever the ledger. -/
theorem reach_eq (h : b.Replaces (t.recording l) b') (row column : Nat) :
    b'.reach (t.recording l) row column = b.reach t row column := by
  simp only [reach, h.config]
  rfl

/-- A check of cells records what they come to against the texts of the sheet. -/
theorem checkCells (h : b.Replaces (t.recording l) b') (vars : Variables) (trial : Option Trial)
    (ids : List CellId) (propagated : Nat) :
    ∃ l', b.Replaces (t.recording l')
        (b'.checkCells vars trial (t.recording l) ids propagated).book ∧
      ∀ id, l'.get? id =
        if id ∈ ids then some ((b.putSheet t).probeCell vars trial t id) else l.get? id := by
  let verdicts := ids.map fun id => (id, b'.probeCell vars trial (t.recording l) id)
  have hput : b.Replaces ((t.recording l).store verdicts)
      (b'.putSheet ((t.recording l).store verdicts)) := h.putSheet rfl
  refine ⟨((t.recording l).store verdicts).ledger, ⟨hput.sheets, hput.config⟩, fun id => ?_⟩
  rw [← h.probeCell_eq vars trial id]
  exact Ledger.get?_foldl_insert _ ids l id

/-- Writing a text checks the cells reached against the texts with this one among them. -/
theorem commit (h : b.Replaces (t.recording l) b') (hb : b.WellFormed) (ht : t.WellFormed)
    (hs : b.sheet? t.name = some s) (vars : Variables) (e : Entry) (hrow : e.row < t.rowCount)
    (hcolumn : e.column < t.columns) :
    let u := t.write e.row e.column e.text
    ∃ l', b.Replaces (u.recording l') (b'.serve vars (e.commit t.name)) ∧
      ∀ id, l'.get? id =
        if id ∈ b.reach t e.row e.column then some ((b.putSheet u).probeCell vars none u id)
        else l.get? id := by
  intro u
  have ht' : (t.recording l).WellFormed := ⟨ht.rectangular, ht.built⟩
  have hfound : b'.sheet? t.name = some (t.recording l) := h.sheet?_eq hs
  have hreply : b'.setValueAt vars t.name e.row e.column e.text =
      (b'.putSheet (u.recording l)).checkCells vars none (u.recording l)
        (b'.reach (t.recording l) e.row e.column) _ :=
    setValueAt_eq (h.wellFormed hb ht') (s := t.recording l) hfound hrow hcolumn e.text
  have hwritten : b.Replaces (u.recording l) (b'.putSheet (u.recording l)) := h.putSheet rfl
  rw [h.reach_eq] at hreply
  rw [Entry.commit, serve, hreply]
  exact hwritten.checkCells ..

/-- Trying a text checks the cells reached against the texts with this one laid over them. -/
theorem trial (h : b.Replaces (t.recording l) b') (hs : b.sheet? t.name = some s)
    (vars : Variables) (e : Entry) (hrow : e.row < t.rowCount) (hcolumn : e.column < t.columns) :
    ∃ l', b.Replaces (t.recording l') (b'.serve vars (e.trial t.name)) ∧
      ∀ id, l'.get? id =
        if id ∈ b.reach t e.row e.column then
          some ((b.putSheet t).probeCell vars (some ⟨⟨t.name, e.row, e.column⟩, e.text⟩) t id)
        else l.get? id := by
  have hfound : b'.sheet? t.name = some (t.recording l) := h.sheet?_eq hs
  have hbook : (b'.tryValueAt vars t.name e.row e.column e.text).book =
      (b'.checkCells vars (some ⟨⟨t.name, e.row, e.column⟩, e.text⟩) (t.recording l)
        (b'.reach (t.recording l) e.row e.column) _).book :=
    congrArg Reply.book (tryValueAt_eq (s := t.recording l) hfound hrow hcolumn e.text)
  rw [h.reach_eq] at hbook
  rw [Entry.trial, serve, hbook]
  exact h.checkCells ..

/-- Ledgers that agree on the cells of a sheet make no difference. -/
theorem agrees {l' : Ledger} {c c' : Workbook} (h : b.Replaces (t.recording l) c)
    (h' : b.Replaces (t.recording l') c') (hs : b.sheet? t.name = some s)
    (hledger : ∀ id ∈ t.cellIds, l.get? id = l'.get? id) : c.Agrees c' where
  texts name row column := by
    have hname : t.name = s.name := (name_of_sheet? hs).symm
    rw [hname] at hs
    rw [valueAt_of_putSheet h.sheets hs hname, valueAt_of_putSheet h'.sheets hs hname]
    rfl
  verdicts name row column := by
    have hname : t.name = s.name := (name_of_sheet? hs).symm
    rw [hname] at hs
    rw [verdictAt_of_putSheet h.sheets hs hname, verdictAt_of_putSheet h'.sheets hs hname,
      Sheet.verdictAt_recording_congr hledger]

end Replaces

end Workbook

end GridAudit
