import GridAudit.Proofs.Coherence

/-!
# How a workbook holds its sheets

Whatever requests lead to a workbook, each sheet is found under its own name, is a full grid, has
the graph of its present shape and rules unless it has no rows, and has a verdict for every cell.
The first three are what well-formed means. For the last, each effect of a request is one case: a
check keeps the verdicts it does not replace, a sheet made anew forgets all of them and is checked
from end to end, and a written text touches none.
-/

namespace GridAudit

namespace Sheet

/-- Every cell of the sheet has a verdict. -/
def Checked (s : Sheet) : Prop :=
  ∀ row column, row < s.rowCount → column < s.columns → ∃ v, s.verdictAt row column = .ok (some v)

/-- A sheet without rows has no cell to check. -/
theorem checked_new (name : String) (columns : Nat) : (Sheet.new name columns).Checked :=
  fun _ _ hrow => absurd hrow (Nat.not_lt_zero _)

variable {s : Sheet}

/-- Recording verdicts leaves every cell with a verdict that has one or is among theirs. -/
theorem checked_store {ids : List CellId} (f : CellId → Verdict)
    (h : ∀ row column, row < s.rowCount → column < s.columns → s.numberOf row column ∉ ids →
      ∃ v, s.verdictAt row column = .ok (some v)) :
    (s.store (ids.map fun id => (id, f id))).Checked := by
  intro row column hrow hcolumn
  by_cases hid : s.numberOf row column ∈ ids
  · exact ⟨_, Workbook.verdictAt_store (s := s) hrow hcolumn hid f⟩
  · rw [Workbook.verdictAt_store_of_notMem fun _ _ => hid]
    exact h row column hrow hcolumn hid

/-- Recording further verdicts takes none away. -/
theorem Checked.store (h : s.Checked) (ids : List CellId) (f : CellId → Verdict) :
    (s.store (ids.map fun id => (id, f id))).Checked :=
  checked_store f fun row column hrow hcolumn _ => h row column hrow hcolumn

/-- Recording verdicts of all cells leaves none without. -/
theorem checked_store_cellIds (s : Sheet) (f : CellId → Verdict) :
    (s.store (s.cellIds.map fun id => (id, f id))).Checked :=
  checked_store f fun _ _ hrow hcolumn hid => absurd (numberOf_mem_cellIds hrow hcolumn) hid

/-- Writing a text takes no verdict away. -/
theorem Checked.write (h : s.Checked) (row column : Nat) (text : String) :
    (s.write row column text).Checked := by
  intro row' column' hrow hcolumn
  have hverdict : (s.write row column text).verdictAt row' column' = s.verdictAt row' column' :=
    Workbook.verdictAt_write_store s row column text [] row' column'
  rw [hverdict]
  exact h row' column' (s.rowCount_write row column text ▸ hrow) hcolumn

/-- In a checked sheet no place is without a verdict: it has one, or is refused. -/
theorem Checked.verdictAt_ne (h : s.Checked) (row column : Nat) :
    s.verdictAt row column ≠ .ok none := by
  intro hnone
  obtain ⟨id, hid, -⟩ := bind_eq_ok.mp hnone
  obtain ⟨hrow, hcolumn, -⟩ := cellId_eq_ok.mp hid
  obtain ⟨v, hv⟩ := h row column hrow hcolumn
  exact Option.some_ne_none v (Except.ok.inj (hv.symm.trans hnone))

end Sheet

namespace Workbook

variable {b b' : Workbook} {vars : Variables} {s : Sheet}

/-- Every cell of every sheet has a verdict. -/
def Checked (b : Workbook) : Prop := ∀ s ∈ b.sheets, s.Checked

/-- After a check of cells of a sheet all is checked that was before, and the sheet if the check
left it so. -/
theorem checked_checkCells (h : ∀ t ∈ b.sheets, t.name ≠ s.name → t.Checked) {trial : Option Trial}
    {ids : List CellId}
    (hs : (s.store (ids.map fun id => (id, b.probeCell vars trial s id))).Checked)
    (propagated : Nat) : (b.checkCells vars trial s ids propagated).book.Checked := by
  intro t ht
  rcases mem_putSheet ht with rfl | ⟨ht, hname⟩
  · exact hs
  · exact h t ht hname

/-- Putting a sheet leaves the others checked. -/
theorem Checked.of_mem_putSheet (h : b.Checked) :
    ∀ t ∈ (b.putSheet s).sheets, t.name ≠ s.name → t.Checked := by
  intro t ht hname
  rcases mem_putSheet ht with rfl | ⟨ht, -⟩
  · contradiction
  · exact h t ht

/-- No request leaves a cell without a verdict. -/
theorem Checked.of_effect (hchecked : b.Checked) {request : Request}
    (h : Effect b vars request b') : b'.Checked := by
  cases h with
  | refused | configured => exact hchecked
  | added columns =>
    intro s hs
    rcases List.mem_append.mp hs with hs | hs
    · exact hchecked s hs
    · obtain rfl := List.mem_singleton.mp hs
      exact Sheet.checked_new _ columns
  | checked ids propagated hs | tried text hs =>
    have hsheet := hchecked _ (mem_of_sheet? hs)
    exact checked_checkCells (fun t ht _ => hchecked t ht) (hsheet.store _ _) _
  | @remade _ s s' =>
    -- What was recorded before is forgotten, and the check records a verdict for every cell.
    exact checked_checkCells hchecked.of_mem_putSheet (s'.checked_store_cellIds _) 0
  | @written s row column text hs =>
    have hsheet := (hchecked s (mem_of_sheet? hs)).write row column text
    exact checked_checkCells hchecked.of_mem_putSheet (hsheet.store _ _) _

/-- In every reachable workbook every cell has a verdict. -/
theorem Reachable.checked (h : b.Reachable) : b.Checked := by
  induction h with
  | new config => exact fun s hs => absurd hs List.not_mem_nil
  | serve hb vars request ih => exact ih.of_effect (effect_serve hb.wellFormed vars request)

/-- The sheets of a workbook with different names are found under these. -/
theorem WellFormed.sheet?_of_mem (hb : b.WellFormed) (hs : s ∈ b.sheets) :
    b.sheet? s.name = some s := by
  have hfound : (b.sheet? s.name).isSome := List.find?_isSome.mpr ⟨s, hs, by simp⟩
  obtain ⟨t, ht⟩ := Option.isSome_iff_exists.mp hfound
  obtain rfl := hb.eq_of_name hs (mem_of_sheet? ht) (name_of_sheet? ht)
  exact ht

/-- How a workbook holds one of its sheets. -/
structure Holds (b : Workbook) (s : Sheet) : Prop where
  /-- The sheet is found under its own name. -/
  stored : b.sheet? s.name = some s
  /-- Every row has as many cells as the sheet has columns. -/
  rectangular : ∀ cells ∈ s.rows, cells.length = s.columns
  /-- The graph has the shape of the sheet. -/
  shape : s.rows ≠ [] → s.graph.rows = s.rowCount ∧ s.graph.columns = s.columns
  /-- The graph answers like one built from the shape and the rules as they are. -/
  built : s.rows ≠ [] → ∀ id,
    let fresh := CellGraph.build s.rowCount s.columns s.targetsOf
    s.graph.dependents id = fresh.dependents id ∧ s.graph.precedents id = fresh.precedents id ∧
      s.graph.related id = fresh.related id
  /-- Every cell has a verdict. -/
  checked : ∀ row column, row < s.rowCount → column < s.columns →
    ∃ v, b.verdictAt s.name row column = .ok (some v)
  /-- No place is without a verdict: it has one, or is refused. -/
  never_unchecked : ∀ row column, b.verdictAt s.name row column ≠ .ok none

/-- The verdicts of a sheet found under its own name are those of the sheet. -/
theorem verdictAt_eq (hs : b.sheet? s.name = some s) (row column : Nat) :
    b.verdictAt s.name row column = s.verdictAt row column := by
  simp only [verdictAt, sheet, hs]
  rfl

/-- Whatever requests lead to a workbook, served or refused, it holds each of its sheets under its
own name, as a full grid with the graph of its present shape and rules and a verdict for every
cell. -/
theorem Reachable.holds (h : b.Reachable) (hs : s ∈ b.sheets) : b.Holds s := by
  have hwell := h.wellFormed
  have hstored := hwell.sheet?_of_mem hs
  have hchecked := h.checked s hs
  constructor
  case stored => exact hstored
  case rectangular => exact (hwell.sheets s hs).rectangular
  case shape =>
    intro hrows
    rw [(hwell.sheets s hs).built hrows]
    exact ⟨rfl, rfl⟩
  case built =>
    intro hrows id
    rw [← (hwell.sheets s hs).built hrows]
    exact ⟨rfl, rfl, rfl⟩
  case checked =>
    intro row column
    rw [verdictAt_eq hstored]
    exact hchecked row column
  case never_unchecked =>
    intro row column
    rw [verdictAt_eq hstored]
    exact hchecked.verdictAt_ne row column

/-- `pairBook` with another column in front, a trial, and a request that is refused. -/
def widenedBook : Workbook :=
  ((pairBook.serve .empty (.insertColumn "S" 0 "b")).serve .empty
    (.tryValueAt "S" 1 1 "c")).serve .empty (.removeRows "S" 1 2)

/-- `widenedBook` holds its sheet of two rows and two columns, the first cell of which the rules on
all others read. -/
theorem holds_widenedBook :
    ∃ s, s ∈ widenedBook.sheets ∧ widenedBook.Holds s ∧ s.rowCount = 2 ∧ s.columns = 2 ∧
      s.graph.dependencies = [⟨0, 1⟩, ⟨0, 2⟩, ⟨0, 3⟩] := by
  have hpair : pairBook.Reachable :=
    (((Reachable.new .initial).serve .empty _).serve .empty _).serve .empty _
  have hreachable : widenedBook.Reachable :=
    ((hpair.serve .empty _).serve .empty _).serve .empty _
  have hs : widenedBook.sheet? "S" = some ((widenedBook.sheet? "S").get rfl) := rfl
  exact ⟨_, mem_of_sheet? hs, hreachable.holds (mem_of_sheet? hs), by decide +kernel⟩

end Workbook

end GridAudit
