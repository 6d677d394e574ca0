import GridAudit.Proofs.Restoring
import GridAudit.Proofs.Splicing

/-!
# Checking a sheet row by row

A check of a row records what its cells come to against the texts, and no check changes a text. So
checks of rows may come in any order and any number of times: once every row had its turn, each cell
has the verdict that a check of the whole sheet records. The cells of a row are numbered apart from
those of other rows as long as the cells of the sheet can be numbered. A check of the whole sheet
settles it: another records what is recorded, and leaves the workbook as it is.
-/

namespace GridAudit

namespace Sheet

variable {s : Sheet}

/-- The numbers of the cells of a row. -/
def rowIds (s : Sheet) (row : Nat) : List CellId := (List.range s.columns).map (s.numberOf row)

/-- The numbers of the cells of a sheet are those of its rows. -/
theorem mem_cellIds_iff_mem_rowIds {id : CellId} :
    id ∈ s.cellIds ↔ ∃ row < s.rowCount, id ∈ s.rowIds row := by
  constructor
  · intro h
    have hid := mem_cellIds.mp h
    obtain ⟨hrow, hcolumn⟩ := CellId.place_lt hid
    exact ⟨_, hrow, List.mem_map.mpr ⟨_, List.mem_range.mpr hcolumn, CellId.ofPlace_place hid⟩⟩
  · rintro ⟨row, hrow, hid⟩
    obtain ⟨column, hcolumn, rfl⟩ := List.mem_map.mp hid
    exact numberOf_mem_cellIds hrow (List.mem_range.mp hcolumn)

/-- To record verdicts again changes nothing. -/
theorem store_store (s : Sheet) (ids : List CellId) (f : CellId → Verdict) :
    let verdicts := ids.map fun id => (id, f id)
    (s.store verdicts).store verdicts = s.store verdicts := by
  intro verdicts
  have hledger : verdicts.foldl (fun l v => l.insert v.1 v.2) (s.store verdicts).ledger =
      (s.store verdicts).ledger := by
    refine Ledger.foldl_insert_eq_self fun id hid => ?_
    exact (Ledger.get?_foldl_insert f ids s.ledger id).trans (if_pos hid)
  rw [store, hledger]

end Sheet

namespace Workbook

variable {b b' : Workbook} {vars : Variables} {s : Sheet} {l : Ledger}

/-! ## Rows in turn -/

/-- The workbook that checks of rows lead to, one after another. -/
def checkRows (b : Workbook) (vars : Variables) (name : String) (rows : List Nat) : Workbook :=
  b.serveAll vars (rows.map (Request.recomputeRow name))

/-- A check of a row of a sheet checks the cells of the row. -/
theorem recomputeRow_eq (hs : b.sheet? s.name = some s) {row : Nat} (hrow : row < s.rowCount) :
    b.recomputeRow vars s.name row = b.checkCells vars none s (s.rowIds row) 0 := by
  simp only [recomputeRow, sheet_eq_ok.mpr hs, goOn, Nat.not_le.mpr hrow, ↓reduceIte]
  rfl

/-- A check of a row that the sheet does not have leaves the workbook as it is. -/
theorem book_recomputeRow_of_le (hs : b.sheet? s.name = some s) {row : Nat}
    (hrow : s.rowCount ≤ row) : (b.recomputeRow vars s.name row).book = b := by
  simp only [recomputeRow, sheet_eq_ok.mpr hs, goOn, hrow, ↓reduceIte]

/-- A check of a row records what its cells come to against the texts. -/
theorem Replaces.recomputeRow (h : b.Replaces (s.recording l) b') (hs : b.sheet? s.name = some s)
    (vars : Variables) (row : Nat) :
    ∃ l', b.Replaces (s.recording l') (b'.recomputeRow vars s.name row).book ∧
      ∀ id, l'.get? id =
        if row < s.rowCount ∧ id ∈ s.rowIds row then some ((b.putSheet s).probeCell vars none s id)
        else l.get? id := by
  have hfound : b'.sheet? s.name = some (s.recording l) := h.sheet?_eq hs
  by_cases hrow : row < s.rowCount
  · have hreply : b'.recomputeRow vars s.name row =
        b'.checkCells vars none (s.recording l) (s.rowIds row) 0 :=
      recomputeRow_eq (s := s.recording l) hfound hrow
    simp only [hreply, hrow, true_and]
    exact h.checkCells vars none (s.rowIds row) 0
  · have hkept : (b'.recomputeRow vars s.name row).book = b' :=
      book_recomputeRow_of_le (s := s.recording l) hfound (Nat.le_of_not_lt hrow)
    simp only [hkept, hrow, false_and, ↓reduceIte]
    exact ⟨l, h, fun _ => rfl⟩

/-- Checks of rows record what the cells of these rows come to against the texts. -/
theorem Replaces.checkRows (h : b.Replaces (s.recording l) b') (hs : b.sheet? s.name = some s)
    (vars : Variables) (rows : List Nat) :
    ∃ l', b.Replaces (s.recording l') (b'.checkRows vars s.name rows) ∧
      ∀ id, l'.get? id =
        if ∃ row ∈ rows, row < s.rowCount ∧ id ∈ s.rowIds row then
          some ((b.putSheet s).probeCell vars none s id)
        else l.get? id := by
  induction rows generalizing b' l with
  | nil => exact ⟨l, h, fun id => by simp⟩
  | cons row rest ih =>
    obtain ⟨l', h', hledger'⟩ := h.recomputeRow hs vars row
    obtain ⟨l'', h'', hledger''⟩ := ih h'
    refine ⟨l'', h'', fun id => ?_⟩
    rw [hledger'', hledger']
    by_cases hrest : ∃ row ∈ rest, row < s.rowCount ∧ id ∈ s.rowIds row <;>
      simp only [List.exists_mem_cons_iff, hrest, or_true, or_false, ↓reduceIte]

/-- Once every row was checked, each cell of each sheet is as after a check of the whole sheet. -/
theorem WellFormed.agrees_checkRows (hb : b.WellFormed) (hs : b.sheet? s.name = some s)
    (vars : Variables) {rows : List Nat} (hrows : ∀ row < s.rowCount, row ∈ rows) :
    (b.checkRows vars s.name rows).Agrees (b.recomputeAll vars s.name).book := by
  have hself : b.Replaces (s.recording s.ledger) b := hb.replaces_self hs
  obtain ⟨l, hreplaces, hledger⟩ := hself.checkRows hs vars rows
  obtain ⟨l', hreplaces', hledger'⟩ := hb.replaces_recomputeAll hs vars
  refine hreplaces.agrees hreplaces' hs fun id hid => ?_
  obtain ⟨row, hrow, hmem⟩ := Sheet.mem_cellIds_iff_mem_rowIds.mp hid
  rw [hledger, hledger' id hid, if_pos ⟨row, hrows row hrow, hrow, hmem⟩]

/-- A check of a row keeps the verdicts of all other rows and sheets. -/
theorem WellFormed.verdictAt_recomputeRow_of_ne (hb : b.WellFormed) (hs : b.sheet? s.name = some s)
    (hsize : s.rowCount * s.columns < UInt32.size) (vars : Variables) {row row' : Nat}
    {name : String} (hother : name ≠ s.name ∨ row' ≠ row) (column : Nat) :
    (b.recomputeRow vars s.name row).book.verdictAt name row' column =
      b.verdictAt name row' column := by
  by_cases hrow : row < s.rowCount
  · have hwell := hb.sheets s (mem_of_sheet? hs)
    have ha : (⟨name, row', column⟩ : CellAddress) ∉ (s.rowIds row).map s.addressOfId := by
      rw [Sheet.rowIds, Sheet.map_addressOfId_row hwell hsize hrow]
      intro hmem
      obtain ⟨_, -, haddress⟩ := List.mem_map.mp hmem
      obtain ⟨hname, hrow', -⟩ := CellAddress.mk.inj haddress
      exact hother.elim (fun hne => hne hname.symm) fun hne => hne hrow'.symm
    rw [recomputeRow_eq hs hrow]
    exact verdictAt_checkCells_of_notMem hs hwell hsize ha none 0
  · rw [book_recomputeRow_of_le hs (Nat.le_of_not_lt hrow)]

/-! ## The whole again -/

/-- A check of all of a sheet finds its report and leaves the sheet with its verdicts. -/
theorem checkedWith_eq (b : Workbook) (vars : Variables) (t : Sheet) :
    let report := (b.putSheet t).checkReport vars none t t.cellIds 0
    let checked := b.putSheet (t.store (b.allVerdicts vars t))
    b.checkedWith vars t = ⟨{ checked with lastReport := some report }, .ok report⟩ := by
  intro report checked
  have hput : (b.putSheet t).putSheet (t.store (b.allVerdicts vars t)) = checked :=
    putSheet_putSheet b rfl
  rw [← hput]
  simp only [checkedWith, checkCells, report, checkReport, List.map_map]
  rfl

/-- A check of all of a sheet that has the verdicts of such a check finds them again. -/
theorem checkedWith_store (b : Workbook) (vars : Variables) (s : Sheet) :
    b.checkedWith vars (s.store (b.allVerdicts vars s)) = b.checkedWith vars s := by
  let t := s.store (b.allVerdicts vars s)
  have hput : b.Replaces (s.recording t.ledger) (b.putSheet t) := ⟨rfl, rfl⟩
  have hprobe (id : CellId) :
      (b.putSheet t).probeCell vars none t id = (b.putSheet s).probeCell vars none s id :=
    hput.probeCell_eq vars none id
  have hverdicts : b.allVerdicts vars t = b.allVerdicts vars s :=
    List.map_congr_left fun id _ => by rw [hprobe id]
  have hstored : t.store (b.allVerdicts vars t) = t := by
    rw [hverdicts]
    exact s.store_store s.cellIds fun id => (b.putSheet s).probeCell vars none s id
  have hreport : (b.putSheet t).checkReport vars none t t.cellIds 0 =
      (b.putSheet s).checkReport vars none s s.cellIds 0 :=
    congrArg (Report.ofVerdicts · 0) (List.map_congr_left fun id _ => by rw [hprobe id]; rfl)
  rw [checkedWith_eq b vars t, checkedWith_eq b vars s, hstored, hreport]

/-- A check of a whole sheet is settled by the first: a second leaves the workbook as it is, and
answers the same. -/
theorem WellFormed.recomputeAll_recomputeAll (hb : b.WellFormed) (vars : Variables)
    (name : String) :
    (b.recomputeAll vars name).book.recomputeAll vars name = b.recomputeAll vars name := by
  cases hs : b.sheet? name with
  | none =>
    have hrefused : b.recomputeAll vars name = ⟨b, .error (.unknownSheet name)⟩ := by
      simp only [recomputeAll, sheet, hs, goOn]
    rw [hrefused, hrefused]
  | some s =>
    obtain rfl := name_of_sheet? hs
    let t := s.store (b.allVerdicts vars s)
    have hwell := (hb.sheets s (mem_of_sheet? hs)).store (b.allVerdicts vars s)
    rw [hb.recomputeAll_eq hs]
    have hreplaces : b.Replaces t (b.checkedWith vars s).book :=
      ⟨b.sheets_checkedWith vars s, rfl⟩
    have hfound : (b.checkedWith vars s).book.sheet? t.name = some t := hreplaces.sheet?_eq hs
    calc (b.checkedWith vars s).book.recomputeAll vars s.name
        = (b.checkedWith vars s).book.checkedWith vars t :=
          (hreplaces.wellFormed hb hwell).recomputeAll_eq hfound
      _ = b.checkedWith vars t := hreplaces.checkedWith_eq rfl vars
      _ = b.checkedWith vars s := b.checkedWith_store vars s

/-! ## Reachable workbooks -/

/-- Checks of rows of a sheet compared with a check of the whole of it. -/
structure ChecksByRows (b : Workbook) (vars : Variables) (s : Sheet) (rows : List Nat) : Prop where
  /-- In the end all texts and all verdicts are those after a check of the whole sheet. -/
  agrees : (b.checkRows vars s.name rows).Agrees (b.recomputeAll vars s.name).book
  /-- Each check of a row of the sheet is answered. -/
  answered : ∀ before, ∀ row < s.rowCount,
    ∃ r, ((b.checkRows vars s.name before).recomputeRow vars s.name row).answer = .ok r
  /-- Each check of a row, whatever rows came before, keeps the verdicts of all other rows and
  sheets, as long as the cells of the sheet can be numbered. -/
  kept : s.rowCount * s.columns < UInt32.size → ∀ before row name row' column,
    name ≠ s.name ∨ row' ≠ row →
      let checked := b.checkRows vars s.name before
      (checked.recomputeRow vars s.name row).book.verdictAt name row' column =
        checked.verdictAt name row' column
  /-- A check of the whole sheet that is repeated changes nothing and answers the same. -/
  settled : (b.recomputeAll vars s.name).book.recomputeAll vars s.name =
    b.recomputeAll vars s.name

/-- Checks of rows of a sheet, in any order and with repeats, come to a check of the whole sheet
once every row had its turn: in every reachable workbook, whatever verdicts it holds. -/
theorem Reachable.checksByRows (h : b.Reachable) (hs : b.sheet? s.name = some s) (vars : Variables)
    {rows : List Nat} (hrows : ∀ row < s.rowCount, row ∈ rows) :
    b.ChecksByRows vars s rows := by
  have hb := h.wellFormed
  have hwell := hb.sheets s (mem_of_sheet? hs)
  have hself : b.Replaces (s.recording s.ledger) b := hb.replaces_self hs
  -- Whatever rows came before, the sheet is the same but for its ledger.
  have hbefore (before : List Nat) : ∃ l,
      (b.checkRows vars s.name before).WellFormed ∧
        (b.checkRows vars s.name before).sheet? s.name = some (s.recording l) := by
    obtain ⟨l, hreplaces, -⟩ := hself.checkRows hs vars before
    exact ⟨l, hreplaces.wellFormed hb ⟨hwell.rectangular, hwell.built⟩, hreplaces.sheet?_eq hs⟩
  constructor
  case agrees => exact hb.agrees_checkRows hs vars hrows
  case answered =>
    intro before row hrow
    obtain ⟨l, -, hfound⟩ := hbefore before
    have hreply : (b.checkRows vars s.name before).recomputeRow vars s.name row = _ :=
      recomputeRow_eq (s := s.recording l) hfound hrow
    exact ⟨_, by rw [hreply, answer_checkCells]⟩
  case kept =>
    intro hsize before row name row' column hother
    obtain ⟨l, hbefore, hfound⟩ := hbefore before
    exact hbefore.verdictAt_recomputeRow_of_ne (s := s.recording l) hfound hsize vars hother column
  case settled => exact hb.recomputeAll_recomputeAll vars s.name

/-- `pairBook` with a text that was written while changes did not spread. -/
def staleBook : Workbook :=
  (pairBook.serve .empty (.setPropagationDepth 0)).serve .empty (.setValueAt "S" 0 0 "b")

/-- The second cell of `staleBook` is no longer valid. A check of its row finds out, before or after
that of the other row. -/
theorem checksByRows_staleBook :
    ∃ s, staleBook.sheet? "S" = some s ∧ staleBook.ChecksByRows .empty s [1, 0, 1] ∧
      staleBook.verdictAt "S" 1 0 = .ok (some .valid) ∧
      (staleBook.checkRows .empty "S" [0]).verdictAt "S" 1 0 = .ok (some .valid) ∧
      (staleBook.checkRows .empty "S" [1, 0, 1]).verdictAt "S" 1 0 = .ok (some .invalid) := by
  have hreachable : staleBook.Reachable := (pairBook_reachable.serve .empty _).serve .empty _
  let s := (staleBook.sheet? "S").get rfl
  have hs : staleBook.sheet? s.name = some s := rfl
  have hrows : ∀ row < s.rowCount, row ∈ [1, 0, 1] := by decide +kernel
  have hchecks := hreachable.checksByRows hs .empty hrows
  exact ⟨s, hs, hchecks, by decide +kernel, by decide +kernel, by decide +kernel⟩

end Workbook

end GridAudit
