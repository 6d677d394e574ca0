import GridAudit.Proofs.Ledger
import GridAudit.Proofs.Reachable
import Mathlib.Data.List.Nodup

/-!
# A trial is a commit that writes nothing

Reading through the overlay of a trial is reading the workbook with the text written, so the cells a
change reaches get the same verdicts either way, whatever their rules read. A trial and a commit
from the same workbook leave the same verdicts and the same report; all else a trial leaves as it
was, and a commit changes the text of the one cell.
-/

namespace GridAudit

/-- A sheet without its verdicts: its name, texts, shape, attachments and graph. -/
def Sheet.contents (s : Sheet) : Sheet := { s with ledger := .empty }

/-- A cell with a text is in one of the rows. -/
theorem Sheet.row_lt_of_text? {s : Sheet} {row column : Nat} {text : String}
    (h : s.text? row column = some text) : row < s.rowCount := by
  by_contra hrow
  simp [text?, List.getElem?_eq_none (Nat.not_lt.mp hrow)] at h

/-- A text is read where there is one. -/
theorem Sheet.valueAt_eq_ok {s : Sheet} {row column : Nat} {text : String} :
    s.valueAt row column = .ok text ↔ s.text? row column = some text := by
  unfold valueAt
  cases s.text? row column <;> simp

/-- The text of a cell after one was written. -/
theorem Sheet.text?_write (s : Sheet) (row column : Nat) (text : String) (row' column' : Nat) :
    (s.write row column text).text? row' column' =
      if row = row' ∧ column = column' then (s.text? row' column').map fun _ => text
      else s.text? row' column' := by
  simp only [text?, write, List.getElem?_modify]
  by_cases hrow : row = row'
  · cases hcells : s.rows[row']? with
    | none => simp [hrow]
    | some cells => simp [hrow, List.getElem?_set', Function.const_def]
  · simp [hrow]

namespace Workbook

variable {b : Workbook} {vars : Variables}

/-- What a workbook holds beside verdicts and the last report. -/
def contents (b : Workbook) : List Sheet × Config := (b.sheets.map Sheet.contents, b.config)

/-- The texts of a workbook after one was written are those with the text laid over them. -/
theorem cellText_write {s : Sheet} (hs : b.sheet? s.name = some s) {row column : Nat} {old : String}
    (hold : s.text? row column = some old) (text : String) :
    (b.putSheet (s.write row column text)).cellText =
      b.overlaid (some ⟨⟨s.name, row, column⟩, text⟩) := by
  funext ⟨name, row', column'⟩
  simp only [cellText, overlaid, sheet?_putSheet, Sheet.name_write, CellAddress.mk.injEq]
  by_cases hname : name = s.name
  · subst hname
    simp only [hs, Option.map_some, ↓reduceIte, Sheet.rowCount_write, Sheet.text?_write, true_and]
    by_cases hcell : row = row' ∧ column = column'
    · obtain ⟨rfl, rfl⟩ := hcell
      simp [hold, Nat.not_le.mpr (Sheet.row_lt_of_text? hold)]
    · simp only [hcell, ↓reduceIte]
  · simp [hname, Ne.symm hname]

/-- Checking a cell after a text was written is checking it with the text laid over. -/
theorem probeCell_write {s : Sheet} (hs : b.sheet? s.name = some s) {row column : Nat}
    {old : String} (hold : s.text? row column = some old) (text : String) (id : CellId) :
    (b.putSheet (s.write row column text)).probeCell vars none (s.write row column text) id =
      b.probeCell vars (some ⟨⟨s.name, row, column⟩, text⟩) s id := by
  have hcells : (b.putSheet (s.write row column text)).overlaid none =
      b.overlaid (some ⟨⟨s.name, row, column⟩, text⟩) := cellText_write hs hold text
  simp only [probeCell, hcells]
  rfl

/-- Of two sheets of one name put in turn the later stays. -/
theorem putSheet_putSheet (b : Workbook) {s t : Sheet} (hname : s.name = t.name) :
    (b.putSheet s).putSheet t = b.putSheet t := by
  simp only [putSheet, List.map_map, Workbook.mk.injEq, and_true]
  refine List.map_congr_left fun u _ => ?_
  by_cases hu : u.name = t.name <;> simp [hu, hname]

/-- In a well-formed workbook a name determines the sheet. -/
theorem WellFormed.eq_of_name (hb : b.WellFormed) {s t : Sheet} (hs : s ∈ b.sheets)
    (ht : t ∈ b.sheets) (hname : t.name = s.name) : t = s :=
  List.inj_on_of_nodup_map hb.names ht hs hname

/-- Putting a sheet with the contents of the one it replaces changes no contents. -/
theorem WellFormed.contents_putSheet (hb : b.WellFormed) {s s' : Sheet}
    (hs : b.sheet? s.name = some s) (hcontents : s'.contents = s.contents) :
    (b.putSheet s').contents = b.contents := by
  have hname : s'.name = s.name := by
    simpa only [Sheet.contents] using congrArg Sheet.name hcontents
  simp only [contents, Workbook.putSheet, List.map_map, Prod.mk.injEq, and_true]
  refine List.map_congr_left fun t ht => ?_
  by_cases h : t.name = s.name
  · obtain rfl := hb.eq_of_name (mem_of_sheet? hs) ht h
    simpa [hname] using hcontents
  · simp [hname, h]

/-- A commit and a trial of one text check the same cells to the same verdicts, which each records
in its own sheet, with the same report. -/
theorem WellFormed.commit_and_trial (hb : b.WellFormed) {s : Sheet}
    (hs : b.sheet? s.name = some s) {row column : Nat} (hrow : row < s.rowCount)
    (hcolumn : column < s.columns) (text : String) :
    let trial : Trial := ⟨⟨s.name, row, column⟩, text⟩
    let verdicts := (b.reach s row column).map fun id => (id, b.probeCell vars (some trial) s id)
    ∃ report, b.setValueAt vars s.name row column text =
        ⟨{ b.putSheet ((s.write row column text).store verdicts) with lastReport := some report },
          .ok report⟩ ∧
      (b.tryValueAt vars s.name row column text).book =
        { b.putSheet (s.store verdicts) with lastReport := some report } := by
  intro trial verdicts
  obtain ⟨old, hold⟩ := (hb.sheets s (mem_of_sheet? hs)).exists_text?_iff.mpr ⟨hrow, hcolumn⟩
  rw [setValueAt_eq hb hs hrow hcolumn, tryValueAt_eq hs hrow hcolumn]
  simp only [Workbook.checkCells, probeCell_write hs hold]
  refine ⟨_, ?_, rfl⟩
  have hput : (b.putSheet (s.write row column text)).putSheet
      ((s.write row column text).store verdicts) =
        b.putSheet ((s.write row column text).store verdicts) := putSheet_putSheet b rfl
  rw [hput]
  rfl

section Reading

variable {b' : Workbook} {s t : Sheet}

/-- Verdicts after a sheet was put in place of another. -/
theorem verdictAt_of_putSheet (hsheets : b'.sheets = (b.putSheet t).sheets)
    (hs : b.sheet? s.name = some s) (hname : t.name = s.name) (name : String) (row column : Nat) :
    b'.verdictAt name row column =
      if name = s.name then t.verdictAt row column else b.verdictAt name row column := by
  have hfound : b'.sheet? name = (b.putSheet t).sheet? name := by rw [sheet?, hsheets, sheet?]
  simp only [verdictAt, sheet, hfound, sheet?_putSheet, hname]
  by_cases h : name = s.name
  · subst h
    simp only [↓reduceIte, hs, Option.map_some]
    rfl
  · simp only [h, ↓reduceIte]

/-- Verdicts after cells of a sheet were checked. -/
theorem verdictAt_checkCells (hs : b.sheet? s.name = some s) (vars : Variables)
    (trial : Option Trial) (ids : List CellId) (propagated : Nat) (name : String)
    (row column : Nat) :
    (b.checkCells vars trial s ids propagated).book.verdictAt name row column =
      if name = s.name then
        (s.store (ids.map fun id => (id, b.probeCell vars trial s id))).verdictAt row column
      else b.verdictAt name row column := by
  have hsheets : (b.checkCells vars trial s ids propagated).book.sheets =
      (b.putSheet (s.store (ids.map fun id => (id, b.probeCell vars trial s id)))).sheets := rfl
  exact verdictAt_of_putSheet hsheets hs rfl name row column

/-- Texts after a sheet was put in place of another. -/
theorem valueAt_of_putSheet (hsheets : b'.sheets = (b.putSheet t).sheets)
    (hs : b.sheet? s.name = some s) (hname : t.name = s.name) (name : String) (row column : Nat) :
    b'.valueAt name row column =
      if name = s.name then t.valueAt row column else b.valueAt name row column := by
  have hfound : b'.sheet? name = (b.putSheet t).sheet? name := by rw [sheet?, hsheets, sheet?]
  simp only [valueAt, sheet, hfound, sheet?_putSheet, hname]
  by_cases h : name = s.name
  · subst h
    simp only [↓reduceIte, hs, Option.map_some]
    rfl
  · simp only [h, ↓reduceIte]

end Reading

/-- Writing a text changes no verdict of the sheet, whichever verdicts were recorded. -/
theorem verdictAt_write_store (s : Sheet) (row column : Nat) (text : String)
    (verdicts : List (CellId × Verdict)) (row' column' : Nat) :
    ((s.write row column text).store verdicts).verdictAt row' column' =
      (s.store verdicts).verdictAt row' column' := by
  have hcell : ((s.write row column text).store verdicts).cellId row' column' =
      (s.store verdicts).cellId row' column' := s.cellId_write row column text row' column'
  simp only [Sheet.verdictAt, hcell]
  rfl

/-- The verdict of a cell among those that were checked. -/
theorem verdictAt_store {s : Sheet} {row column : Nat} (hrow : row < s.rowCount)
    (hcolumn : column < s.columns) {ids : List CellId} (hid : s.numberOf row column ∈ ids)
    (f : CellId → Verdict) :
    (s.store (ids.map fun id => (id, f id))).verdictAt row column =
      .ok (some (f (s.numberOf row column))) := by
  have hcell : (s.store (ids.map fun id => (id, f id))).cellId row column =
      .ok (s.numberOf row column) := Sheet.cellId_eq_ok.mpr ⟨hrow, hcolumn, rfl⟩
  have hverdict := Ledger.get?_foldl_insert f ids s.ledger (s.numberOf row column)
  rw [if_pos hid] at hverdict
  simp only [Sheet.verdictAt, hcell]
  exact congrArg Except.ok hverdict

/-- The text of a cell after one was written. -/
theorem valueAt_write {s : Sheet} {row column : Nat} {old : String}
    (hold : s.text? row column = some old) (text : String) (row' column' : Nat) :
    (s.write row column text).valueAt row' column' =
      if row = row' ∧ column = column' then .ok text else s.valueAt row' column' := by
  simp only [Sheet.valueAt, Sheet.text?_write]
  by_cases h : row = row' ∧ column = column'
  · obtain ⟨rfl, rfl⟩ := h
    simp [hold]
  · simp only [h, ↓reduceIte]
    rfl

/-- A trial of a text for a cell of a sheet answers what a check of the cell finds, and leaves it
for the cell. -/
theorem answer_tryValueAt {s : Sheet} (hs : b.sheet? s.name = some s) {row column : Nat}
    (hrow : row < s.rowCount) (hcolumn : column < s.columns) (text : String) :
    let found := b.probeCell vars (some ⟨⟨s.name, row, column⟩, text⟩) s (s.numberOf row column)
    (b.tryValueAt vars s.name row column text).answer = .ok (some found) ∧
      (b.tryValueAt vars s.name row column text).book.verdictAt s.name row column =
        .ok (some found) := by
  have hrecorded := verdictAt_checkCells hs vars (some ⟨⟨s.name, row, column⟩, text⟩)
    (b.reach s row column) ((b.reach s row column).length - 1) s.name row column
  rw [if_pos rfl, verdictAt_store hrow hcolumn (b.mem_reach s row column)] at hrecorded
  rw [tryValueAt_eq hs hrow hcolumn]
  exact ⟨hrecorded, hrecorded⟩

/-- A trial of a text for a cell of a sheet answers the verdict it leaves for the cell. -/
theorem exists_answer_tryValueAt {s : Sheet} (hs : b.sheet? s.name = some s) {row column : Nat}
    (hrow : row < s.rowCount) (hcolumn : column < s.columns) (text : String) :
    ∃ v, (b.tryValueAt vars s.name row column text).answer = .ok (some v) ∧
      (b.tryValueAt vars s.name row column text).book.verdictAt s.name row column =
        .ok (some v) :=
  ⟨_, answer_tryValueAt hs hrow hcolumn text⟩

/-- A commit of a text to a cell of a sheet succeeds, and leaves for the cell what a check of it
with the text finds. -/
theorem WellFormed.verdictAt_setValueAt (hb : b.WellFormed) {s : Sheet}
    (hs : b.sheet? s.name = some s) {row column : Nat} (hrow : row < s.rowCount)
    (hcolumn : column < s.columns) (text : String) :
    (∃ report, (b.setValueAt vars s.name row column text).answer = .ok report) ∧
      (b.setValueAt vars s.name row column text).book.verdictAt s.name row column =
        .ok (some (b.probeCell vars (some ⟨⟨s.name, row, column⟩, text⟩) s
          (s.numberOf row column))) := by
  obtain ⟨report, hcommitted, -⟩ := hb.commit_and_trial hs hrow hcolumn text
  let verdicts := (b.reach s row column).map fun id =>
    (id, b.probeCell vars (some ⟨⟨s.name, row, column⟩, text⟩) s id)
  have hsheets : (b.setValueAt vars s.name row column text).book.sheets =
      (b.putSheet ((s.write row column text).store verdicts)).sheets :=
    congrArg (fun reply => reply.book.sheets) hcommitted
  refine ⟨⟨report, congrArg Reply.answer hcommitted⟩, ?_⟩
  rw [verdictAt_of_putSheet hsheets hs rfl, if_pos rfl, verdictAt_write_store,
    verdictAt_store hrow hcolumn (b.mem_reach s row column)]

/-- A commit of a text to a cell of a sheet and a trial of it, compared with the workbook before. -/
structure CommitAndTrial (b : Workbook) (s : Sheet) (row column : Nat) (text : String)
    (committed : Reply Report) (tried : Reply (Option Verdict)) : Prop where
  /-- The commit succeeds, and both leave its report. -/
  report : ∃ report, committed.answer = .ok report ∧ committed.book.lastReport = some report ∧
    tried.book.lastReport = some report
  /-- Both leave every cell of every sheet with the same verdict. -/
  verdicts : ∀ name row' column',
    committed.book.verdictAt name row' column' = tried.book.verdictAt name row' column'
  /-- The trial answers the verdict it left for the cell. -/
  answer : ∃ v, tried.answer = .ok (some v) ∧
    tried.book.verdictAt s.name row column = .ok (some v)
  /-- The trial changes nothing but verdicts and the report. -/
  untouched : tried.book.contents = b.contents
  /-- The commit changes nothing else but the sheet, in which it writes the text. -/
  written : committed.book.contents = (b.putSheet (s.write row column text)).contents
  /-- After the commit the cell has the text, and every other cell the text it had. -/
  texts : ∀ name row' column', committed.book.valueAt name row' column' =
    if name = s.name ∧ row = row' ∧ column = column' then .ok text
    else b.valueAt name row' column'

/-- Putting a written sheet, with whatever verdicts, changes the text of its cell alone. -/
theorem valueAt_putSheet_write {s : Sheet} (hs : b.sheet? s.name = some s) {row column : Nat}
    {old : String} (hold : s.text? row column = some old) (text : String)
    {verdicts : List (CellId × Verdict)} {b' : Workbook}
    (hsheets : b'.sheets = (b.putSheet ((s.write row column text).store verdicts)).sheets)
    (name : String) (row' column' : Nat) :
    b'.valueAt name row' column' =
      if name = s.name ∧ row = row' ∧ column = column' then .ok text
      else b.valueAt name row' column' := by
  rw [valueAt_of_putSheet hsheets hs rfl]
  by_cases hname : name = s.name
  · subst hname
    have hvalue : b.valueAt s.name row' column' = s.valueAt row' column' := by
      simp only [valueAt, sheet, hs]
      rfl
    simp only [↓reduceIte, hvalue, true_and]
    exact valueAt_write hold text row' column'
  · simp [hname]

/-- Putting a written sheet with verdicts leaves the contents of the written workbook. -/
theorem WellFormed.contents_putSheet_write (hb : b.WellFormed) {s : Sheet}
    (hs : b.sheet? s.name = some s) (row column : Nat) (text : String)
    (verdicts : List (CellId × Verdict)) :
    (b.putSheet ((s.write row column text).store verdicts)).contents =
      (b.putSheet (s.write row column text)).contents := by
  have hwritten := hb.putSheet ((hb.sheets s (mem_of_sheet? hs)).write row column text)
  have hfound := sheet?_putSheet_self hs (s.name_write row column text)
  have hput : (b.putSheet (s.write row column text)).putSheet
      ((s.write row column text).store verdicts) =
        b.putSheet ((s.write row column text).store verdicts) := putSheet_putSheet b rfl
  rw [← hput]
  exact hwritten.contents_putSheet (s := s.write row column text) hfound rfl

/-- A trial is a commit that writes nothing: in every reachable workbook, for every cell of every
sheet, whatever the rules on it read. -/
theorem Reachable.commitAndTrial (hb : b.Reachable) {s : Sheet} (hs : b.sheet? s.name = some s)
    {row column : Nat} (hrow : row < s.rowCount) (hcolumn : column < s.columns) (text : String) :
    CommitAndTrial b s row column text (b.setValueAt vars s.name row column text)
      (b.tryValueAt vars s.name row column text) := by
  have hwell := hb.wellFormed
  obtain ⟨old, hold⟩ := (hwell.sheets s (mem_of_sheet? hs)).exists_text?_iff.mpr ⟨hrow, hcolumn⟩
  obtain ⟨report, hcommitted, htried⟩ := hwell.commit_and_trial hs hrow hcolumn text
  let verdicts := (b.reach s row column).map fun id =>
    (id, b.probeCell vars (some ⟨⟨s.name, row, column⟩, text⟩) s id)
  have hsheets : (b.setValueAt vars s.name row column text).book.sheets =
      (b.putSheet ((s.write row column text).store verdicts)).sheets :=
    congrArg (fun reply => reply.book.sheets) hcommitted
  have hsheets' : (b.tryValueAt vars s.name row column text).book.sheets =
      (b.putSheet (s.store verdicts)).sheets :=
    (congrArg sheets htried :)
  constructor
  case report =>
    exact ⟨report, congrArg Reply.answer hcommitted,
      congrArg (fun reply => reply.book.lastReport) hcommitted, congrArg lastReport htried⟩
  case verdicts =>
    intro name row' column'
    rw [verdictAt_of_putSheet hsheets hs rfl, verdictAt_of_putSheet hsheets' hs rfl,
      verdictAt_write_store]
  case answer => exact exists_answer_tryValueAt hs hrow hcolumn text
  case untouched =>
    rw [htried]
    exact hwell.contents_putSheet hs rfl
  case written =>
    rw [hcommitted]
    exact hwell.contents_putSheet_write hs row column text verdicts
  case texts => exact valueAt_putSheet_write hs hold text hsheets

/-- A matcher that compares a cell with the first one of its sheet. -/
def sameAsFirst : Matcher where
  name := "Exact"
  arguments := [⟨"input", .cell (.within "S" (some 0) (some 0))⟩, ⟨"against", .cell .any⟩]
  references := [.within "S" (some 0) (some 0), .any]
  body := .equal (.cell (.within "S" (some 0) (some 0))) (.cell .any)

/-- A sheet of two rows, each of whose cells must have the text of the first. -/
def pairBook : Workbook :=
  (((new .initial).serve .empty (.addSheet "S" 1)).serve .empty
    (.loadRows "S" [["a"], ["a"]])).serve .empty (.attach "S" .any ⟨[sameAsFirst], []⟩)

/-- Requests lead to `pairBook`. -/
theorem pairBook_reachable : pairBook.Reachable :=
  (((Reachable.new .initial).serve .empty _).serve .empty _).serve .empty _

/-- A trial of the first cell, which the rules on both cells read, is a commit that writes
nothing. -/
theorem pairBook_commitAndTrial :
    ∃ s, pairBook.sheet? "S" = some s ∧ 0 < s.rowCount ∧ 0 < s.columns ∧
      CommitAndTrial pairBook s 0 0 "b" (pairBook.setValueAt .empty "S" 0 0 "b")
        (pairBook.tryValueAt .empty "S" 0 0 "b") := by
  have hreachable : pairBook.Reachable :=
    (((Reachable.new .initial).serve .empty _).serve .empty _).serve .empty _
  refine ⟨_, rfl, by decide, by decide, ?_⟩
  exact hreachable.commitAndTrial (s := (pairBook.sheet? "S").get rfl) rfl (by decide) (by decide)
    "b"

end Workbook

end GridAudit
