import GridAudit.Grid.Workbook
import GridAudit.Proofs.Results

/-!
# Workbooks that requests lead to

A request is any of the calls that may change a workbook. What each of them can do is said once, as
an effect: it is refused, adds an empty sheet, sets the number of hops, or changes a sheet and
records verdicts of some of its cells. By induction over requests every workbook reached from an
empty one has sheets of different names, each a full grid whose graph is that of its shape and its
rules.
-/

namespace GridAudit

/-- A call that may change a workbook. -/
inductive Request where
  | addSheet (name : String) (columns : Nat)
  | setPropagationDepth (depth : Nat)
  | attach (name : String) (range : CellRange) (rules : CellRules)
  | loadRows (name : String) (rows : List (List String))
  | insertRows (name : String) (place : Nat) (rows : List (List String))
  | removeRows (name : String) (place count : Nat)
  | insertColumn (name : String) (place : Nat) (fill : String)
  | removeColumn (name : String) (place : Nat)
  | setValueAt (name : String) (row column : Nat) (text : String)
  | tryValueAt (name : String) (row column : Nat) (text : String)
  | recomputeAll (name : String)
  | recomputeRow (name : String) (row : Nat)

namespace Workbook

/-- The workbook a request leaves behind, also when it is refused. -/
def serve (b : Workbook) (vars : Variables) : Request → Workbook
  | .addSheet name columns => (b.addSheet name columns).book
  | .setPropagationDepth depth => b.setPropagationDepth depth
  | .attach name range rules => (b.attach vars name range rules).book
  | .loadRows name rows => (b.loadRows vars name rows).book
  | .insertRows name place rows => (b.insertRows vars name place rows).book
  | .removeRows name place count => (b.removeRows vars name place count).book
  | .insertColumn name place fill => (b.insertColumn vars name place fill).book
  | .removeColumn name place => (b.removeColumn vars name place).book
  | .setValueAt name row column text => (b.setValueAt vars name row column text).book
  | .tryValueAt name row column text => (b.tryValueAt vars name row column text).book
  | .recomputeAll name => (b.recomputeAll vars name).book
  | .recomputeRow name row => (b.recomputeRow vars name row).book

/-- A workbook that requests lead to from an empty one, whatever values variables have meanwhile. -/
inductive Reachable : Workbook → Prop
  | new (config : Config) : Reachable (.new config)
  | serve {b : Workbook} (h : Reachable b) (vars : Variables) (request : Request) :
      Reachable (b.serve vars request)

end Workbook

/-! ## Sheets -/

namespace Sheet

/-- The representation of a sheet: every row has as many cells as the sheet has columns, and the
graph is that of the shape and the rules, unless there are no rows. -/
structure WellFormed (s : Sheet) : Prop where
  rectangular : ∀ cells ∈ s.rows, cells.length = s.columns
  built : s.rows ≠ [] → s.graph = CellGraph.build s.rowCount s.columns s.targetsOf

/-- A sheet of the same name made anew, with its dependencies found and no verdicts. -/
structure Remade (s s' : Sheet) : Prop where
  name : s'.name = s.name
  fresh : s'.rebuild = s'
  rectangular : (∀ cells ∈ s.rows, cells.length = s.columns) →
    ∀ cells ∈ s'.rows, cells.length = s'.columns

/-- A sheet whose rows and rules change is made anew. -/
theorem remade_rebuild {s t : Sheet} (hname : t.name = s.name)
    (hrows : (∀ cells ∈ s.rows, cells.length = s.columns) →
      ∀ cells ∈ t.rows, cells.length = t.columns) : s.Remade t.rebuild :=
  ⟨hname, rfl, hrows⟩

/-- A sheet made anew from a well-formed one is well formed. -/
theorem Remade.wellFormed {s s' : Sheet} (h : s.Remade s') (hs : s.WellFormed) : s'.WellFormed :=
  ⟨h.rectangular hs.rectangular, fun _ => (congrArg graph h.fresh).symm⟩

/-- Filled rows have as many cells as the sheet has columns. -/
theorem length_of_mem_shapeRows {s : Sheet} {row : Nat} {rows shaped : List (List String)}
    (h : s.shapeRows row rows = .ok shaped) : ∀ cells ∈ shaped, cells.length = s.columns := by
  induction rows generalizing row shaped with
  | nil =>
    obtain rfl := Except.ok.inj h
    simp
  | cons cells rest ih =>
    obtain ⟨first, more, hfirst, hmore, rfl⟩ := bind_bind_eq_ok.mp h
    refine List.forall_mem_cons.mpr ⟨?_, ih hmore⟩
    unfold shapeRow at hfirst
    split at hfirst
    · contradiction
    · obtain rfl := Except.ok.inj hfirst
      rw [List.length_append, List.length_replicate]
      omega

section Changes

variable {s s' : Sheet}

/-- Attaching rules makes the sheet anew. -/
theorem remade_of_attach {range : CellRange} {rules : CellRules}
    (h : s.attach range rules = .ok s') : s.Remade s' := by
  unfold attach at h
  split at h
  · obtain rfl := Except.ok.inj h
    exact remade_rebuild rfl id
  · contradiction

/-- Replacing the rows makes the sheet anew. -/
theorem remade_of_loadRows {rows : List (List String)} (h : s.loadRows rows = .ok s') :
    s.Remade s' := by
  obtain ⟨shaped, hshaped, h⟩ := bind_eq_ok.mp h
  have hlength := length_of_mem_shapeRows hshaped
  obtain rfl := Except.ok.inj h
  exact remade_rebuild rfl fun _ => hlength

/-- Inserting rows makes the sheet anew. -/
theorem remade_of_insertRows {place : Nat} {rows : List (List String)}
    (h : s.insertRows place rows = .ok s') : s.Remade s' := by
  unfold insertRows at h
  split at h
  · contradiction
  · obtain ⟨shaped, hshaped, h⟩ := bind_eq_ok.mp h
    obtain rfl := Except.ok.inj h
    refine remade_rebuild rfl fun hrows cells hcells => ?_
    rcases List.mem_append.mp hcells with hcells | hafter
    · rcases List.mem_append.mp hcells with hbefore | hnew
      · exact hrows cells (List.mem_of_mem_take hbefore)
      · exact length_of_mem_shapeRows hshaped cells hnew
    · exact hrows cells (List.mem_of_mem_drop hafter)

/-- Removing rows makes the sheet anew. -/
theorem remade_of_removeRows {place count : Nat} (h : s.removeRows place count = .ok s') :
    s.Remade s' := by
  unfold removeRows at h
  split at h
  · contradiction
  · obtain rfl := Except.ok.inj h
    refine remade_rebuild rfl fun hrows cells hcells => ?_
    rcases List.mem_append.mp hcells with hbefore | hafter
    · exact hrows cells (List.mem_of_mem_take hbefore)
    · exact hrows cells (List.mem_of_mem_drop hafter)

/-- Inserting a column makes the sheet anew. -/
theorem remade_of_insertColumn {place : Nat} {fill : String}
    (h : s.insertColumn place fill = .ok s') : s.Remade s' := by
  unfold insertColumn at h
  split at h
  · contradiction
  · obtain rfl := Except.ok.inj h
    refine remade_rebuild rfl fun hrows cells hcells => ?_
    obtain ⟨old, hold, rfl⟩ := List.mem_map.mp hcells
    have hlength := hrows old hold
    simp only [List.length_append, List.length_take, List.length_cons, List.length_drop]
    omega

/-- Removing a column makes the sheet anew. -/
theorem remade_of_removeColumn {place : Nat} (h : s.removeColumn place = .ok s') :
    s.Remade s' := by
  unfold removeColumn at h
  split at h
  · contradiction
  · next hplace =>
    obtain rfl := Except.ok.inj h
    refine remade_rebuild rfl fun hrows cells hcells => ?_
    obtain ⟨old, hold, rfl⟩ := List.mem_map.mp hcells
    have hlength := hrows old hold
    change _ = s.columns - 1
    rw [List.length_eraseIdx]
    split <;> omega

end Changes

/-- The sheet with the text of a cell written, when there is such a cell. -/
def write (s : Sheet) (row column : Nat) (text : String) : Sheet :=
  { s with rows := s.rows.modify row fun cells => cells.set column text }

/-- Writing succeeds where the sheet has a cell. -/
theorem setCell_eq_ok {s s' : Sheet} {row column : Nat} {text : String} :
    s.setCell row column text = .ok s' ↔
      (∃ old, s.text? row column = some old) ∧ s.write row column text = s' := by
  unfold setCell
  split
  · next old hold => simp [hold, write]
  · next hnone => simp [hnone]

/-- Writing renames no sheet. -/
@[simp] theorem name_write (s : Sheet) (row column : Nat) (text : String) :
    (s.write row column text).name = s.name := rfl

/-- Writing adds no rows. -/
@[simp] theorem rowCount_write (s : Sheet) (row column : Nat) (text : String) :
    (s.write row column text).rowCount = s.rowCount := List.length_modify ..

/-- Writing adds no columns. -/
@[simp] theorem columns_write (s : Sheet) (row column : Nat) (text : String) :
    (s.write row column text).columns = s.columns := rfl

/-- Writing numbers no cell anew. -/
@[simp] theorem cellId_write (s : Sheet) (row column : Nat) (text : String) (row' column' : Nat) :
    (s.write row column text).cellId row' column' = s.cellId row' column' := by
  simp only [cellId, rowCount_write]
  rfl

/-- A written sheet is well formed. -/
theorem WellFormed.write {s : Sheet} (h : s.WellFormed) (row column : Nat) (text : String) :
    (s.write row column text).WellFormed := by
  constructor
  · intro cells hcells
    obtain ⟨i, hi, rfl⟩ := List.getElem_of_mem hcells
    simp only [Sheet.write, List.getElem_modify]
    split
    · rw [List.length_set]
      exact h.rectangular _ (List.getElem_mem _)
    · exact h.rectangular _ (List.getElem_mem _)
  · intro hrows
    rw [rowCount_write]
    refine h.built fun hnil => hrows ?_
    simp [Sheet.write, hnil]

/-- In a full grid the cells are the places within the rows and columns. -/
theorem WellFormed.exists_text?_iff {s : Sheet} (h : s.WellFormed) {row column : Nat} :
    (∃ text, s.text? row column = some text) ↔ row < s.rowCount ∧ column < s.columns := by
  unfold text?
  by_cases hrow : row < s.rowCount
  · have hcells := h.rectangular _ (List.getElem_mem hrow)
    simp only [List.getElem?_eq_getElem hrow, Option.bind_eq_bind, Option.bind_some, hrow, true_and,
      ← hcells]
    exact ⟨fun ⟨_, htext⟩ => (List.getElem?_eq_some_iff.mp htext).1,
      fun hcolumn => ⟨_, List.getElem?_eq_getElem hcolumn⟩⟩
  · have hnone : s.rows[row]? = none := List.getElem?_eq_none (Nat.not_lt.mp hrow)
    simp [hnone, hrow]

/-- A sheet without rows is well formed. -/
theorem wellFormed_new (name : String) (columns : Nat) : (Sheet.new name columns).WellFormed :=
  ⟨fun _ hcells => absurd hcells List.not_mem_nil, fun hrows => absurd rfl hrows⟩

/-- Recording verdicts keeps a sheet well formed. -/
theorem WellFormed.store {s : Sheet} (h : s.WellFormed) (verdicts : List (CellId × Verdict)) :
    (s.store verdicts).WellFormed :=
  ⟨h.rectangular, h.built⟩

/-- The number of the cell at a place. -/
def numberOf (s : Sheet) (row column : Nat) : CellId := CellId.ofPlace row column s.columns

/-- A place has a number when it lies within the rows and columns. -/
theorem cellId_eq_ok {s : Sheet} {row column : Nat} {id : CellId} :
    s.cellId row column = .ok id ↔
      row < s.rowCount ∧ column < s.columns ∧ s.numberOf row column = id := by
  unfold cellId
  split
  · next h => simp [h, numberOf]
  · next h =>
    simp only [reduceCtorEq, false_iff]
    exact fun hcell => h ⟨hcell.1, hcell.2.1⟩

/-- The numbers of all cells of a sheet, row by row. -/
def cellIds (s : Sheet) : List CellId := (List.range (s.rowCount * s.columns)).map CellId.ofIndex

end Sheet

/-! ## Effects of requests -/

namespace Workbook

section Lookup

variable {b : Workbook}

/-- The sheet found under a name has that name. -/
theorem name_of_sheet? {name : String} {s : Sheet} (h : b.sheet? name = some s) :
    s.name = name := by
  simpa using List.find?_some h

/-- The sheet found under a name is one of the workbook's. -/
theorem mem_of_sheet? {name : String} {s : Sheet} (h : b.sheet? name = some s) : s ∈ b.sheets :=
  List.mem_of_find?_eq_some h

/-- Putting a sheet changes what is found under its name, where there was a sheet before. -/
theorem sheet?_putSheet (s : Sheet) (name : String) :
    (b.putSheet s).sheet? name =
      if name = s.name then (b.sheet? name).map fun _ => s else b.sheet? name := by
  unfold sheet? putSheet
  induction b.sheets with
  | nil => simp
  | cons t rest ih =>
    simp only [List.map_cons, List.find?_cons, ih]
    by_cases ht : t.name = s.name <;> by_cases hname : name = s.name
    · simp [ht, hname]
    · simp [ht, hname, Ne.symm hname]
    · subst hname
      simp [ht]
    · simp [ht, hname]

/-- A sheet put in place of another is found under its name. -/
theorem sheet?_putSheet_self {s s' : Sheet} (hs : b.sheet? s.name = some s)
    (hname : s'.name = s.name) : (b.putSheet s').sheet? s.name = some s' := by
  rw [sheet?_putSheet, hname, if_pos rfl, hs, Option.map_some]

/-- Putting a sheet changes no names. -/
theorem names_putSheet (s : Sheet) : (b.putSheet s).sheetNames = b.sheetNames := by
  simp only [sheetNames, putSheet, List.map_map]
  refine List.map_congr_left fun t _ => ?_
  simp only [Function.comp_apply]
  split
  · next h => exact h.symm
  · rfl

/-- A sheet of the workbook after one was put is that one or another of before. -/
theorem mem_putSheet {s t : Sheet} (h : t ∈ (b.putSheet s).sheets) :
    t = s ∨ t ∈ b.sheets ∧ t.name ≠ s.name := by
  obtain ⟨u, hu, rfl⟩ := List.mem_map.mp h
  split
  · exact .inl rfl
  · next hname => exact .inr ⟨hu, hname⟩

end Lookup

/-- The representation of a workbook: its sheets have different names and are well formed. -/
structure WellFormed (b : Workbook) : Prop where
  names : b.sheetNames.Nodup
  sheets : ∀ s ∈ b.sheets, s.WellFormed

/-- A cell and the cells a change of it reaches, in the order in which they are checked. -/
def reach (b : Workbook) (s : Sheet) (row column : Nat) : List CellId :=
  let origin := s.numberOf row column
  origin :: (s.graph.schedule origin (Token.new b.config.propagationDepth)).1

/-- A change of a cell reaches the cell itself. -/
theorem mem_reach (b : Workbook) (s : Sheet) (row column : Nat) :
    s.numberOf row column ∈ b.reach s row column := List.mem_cons_self

/-- What a request does to a workbook. -/
inductive Effect (b : Workbook) (vars : Variables) : Request → Workbook → Prop
  /-- Nothing changes. -/
  | refused (request : Request) : Effect b vars request b
  /-- A sheet without rows is added. -/
  | added {name : String} (columns : Nat) (h : b.sheet? name = none) :
    Effect b vars (.addSheet name columns) { b with sheets := b.sheets ++ [Sheet.new name columns] }
  /-- The number of hops is set. -/
  | configured (depth : Nat) :
    Effect b vars (.setPropagationDepth depth) (b.setPropagationDepth depth)
  /-- Cells of a sheet are checked against the texts as they are. -/
  | checked {request : Request} {s : Sheet} (ids : List CellId) (propagated : Nat)
      (hs : b.sheet? s.name = some s) :
    Effect b vars request (b.checkCells vars none s ids propagated).book
  /-- A sheet is made anew and all of it is checked. -/
  | remade {request : Request} {s s' : Sheet} (hs : b.sheet? s.name = some s) (h : s.Remade s') :
    Effect b vars request ((b.putSheet s').checkCells vars none s' s'.cellIds 0).book
  /-- A text is written, and its cell and the cells it reaches are checked. -/
  | written {s : Sheet} {row column : Nat} (text : String) (hs : b.sheet? s.name = some s)
      (hrow : row < s.rowCount) (hcolumn : column < s.columns) :
    Effect b vars (.setValueAt s.name row column text)
      ((b.putSheet (s.write row column text)).checkCells vars none (s.write row column text)
        (b.reach s row column) ((b.reach s row column).length - 1)).book
  /-- A text is tried, and its cell and the cells it reaches are checked as if it were written. -/
  | tried {s : Sheet} {row column : Nat} (text : String) (hs : b.sheet? s.name = some s)
      (hrow : row < s.rowCount) (hcolumn : column < s.columns) :
    Effect b vars (.tryValueAt s.name row column text)
      (b.checkCells vars (some ⟨⟨s.name, row, column⟩, text⟩) s (b.reach s row column)
        ((b.reach s row column).length - 1)).book

section Serving

variable {b : Workbook} {vars : Variables}

/-- Checking all of a sheet that was just put. -/
theorem recomputeAll_putSheet {s s' : Sheet} (hs : b.sheet? s.name = some s)
    (hname : s'.name = s.name) :
    (b.putSheet s').recomputeAll vars s.name =
      (b.putSheet s').checkCells vars none s' s'.cellIds 0 := by
  simp only [recomputeAll, sheet, sheet?_putSheet_self hs hname, goOn, Sheet.cellIds]

/-- A change that makes a sheet anew is refused, or followed by a check of all of the sheet. -/
theorem effect_reshape {name : String} {change : Sheet → Except SheetError Sheet}
    (hchange : ∀ s s', change s = .ok s' → s.Remade s') (request : Request) :
    Effect b vars request (b.reshape vars name change).book := by
  simp only [reshape, edit, sheet]
  cases hs : b.sheet? name with
  | none => exact .refused request
  | some s =>
    obtain rfl := name_of_sheet? hs
    simp only [goOn]
    cases hs' : change s with
    | error e => exact .refused request
    | ok s' =>
      have hremade := hchange s s' hs'
      simp only [recomputeAll_putSheet hs hremade.name]
      exact .remade hs hremade

/-- Checking the cells that a change of a cell reaches. -/
theorem recomputeFrom_eq {s : Sheet} (hs : b.sheet? s.name = some s) {row column : Nat}
    (hrow : row < s.rowCount) (hcolumn : column < s.columns) (trial : Option String) :
    b.recomputeFrom vars s.name row column trial =
      b.checkCells vars (trial.map fun text => ⟨⟨s.name, row, column⟩, text⟩) s
        (b.reach s row column) ((b.reach s row column).length - 1) := by
  have hcell : s.cellId row column = .ok (s.numberOf row column) :=
    Sheet.cellId_eq_ok.mpr ⟨hrow, hcolumn, rfl⟩
  simp only [recomputeFrom, sheet, hs, goOn, hcell]
  rfl

/-- Writing the text of a cell is putting the written sheet and checking the cells reached. -/
theorem setValueAt_eq (hb : b.WellFormed) {s : Sheet} (hs : b.sheet? s.name = some s)
    {row column : Nat} (hrow : row < s.rowCount) (hcolumn : column < s.columns) (text : String) :
    b.setValueAt vars s.name row column text =
      (b.putSheet (s.write row column text)).checkCells vars none (s.write row column text)
        (b.reach s row column) ((b.reach s row column).length - 1) := by
  have hcell := (hb.sheets s (mem_of_sheet? hs)).exists_text?_iff.mpr ⟨hrow, hcolumn⟩
  have hset : s.setCell row column text = .ok (s.write row column text) :=
    Sheet.setCell_eq_ok.mpr ⟨hcell, rfl⟩
  have hfound := sheet?_putSheet_self hs (Sheet.name_write s row column text)
  have hrow' : row < (s.write row column text).rowCount := by rwa [Sheet.rowCount_write]
  simp only [setValueAt, edit, sheet, hs, goOn, hset]
  exact recomputeFrom_eq (s := s.write row column text) hfound hrow' hcolumn none

/-- Trying a text checks the cells reached, and answers the verdict recorded for the cell. -/
theorem tryValueAt_eq {s : Sheet} (hs : b.sheet? s.name = some s) {row column : Nat}
    (hrow : row < s.rowCount) (hcolumn : column < s.columns) (text : String) :
    b.tryValueAt vars s.name row column text =
      let checked := b.checkCells vars (some ⟨⟨s.name, row, column⟩, text⟩) s
        (b.reach s row column) ((b.reach s row column).length - 1)
      ⟨checked.book, checked.book.verdictAt s.name row column⟩ := by
  rw [tryValueAt, recomputeFrom_eq hs hrow hcolumn]
  rfl

/-- A write is refused, or followed by a check of the cell and the cells it reaches. -/
theorem effect_setValueAt (hb : b.WellFormed) (name : String) (row column : Nat) (text : String) :
    Effect b vars (.setValueAt name row column text)
      (b.setValueAt vars name row column text).book := by
  cases hs : b.sheet? name with
  | none =>
    simp only [setValueAt, edit, sheet, hs]
    exact .refused _
  | some s =>
    obtain rfl := name_of_sheet? hs
    by_cases hcell : row < s.rowCount ∧ column < s.columns
    · rw [setValueAt_eq hb hs hcell.1 hcell.2]
      exact .written text hs hcell.1 hcell.2
    · have hnone : s.text? row column = none := by
        rw [Option.eq_none_iff_forall_ne_some]
        exact fun old hold =>
          hcell ((hb.sheets s (mem_of_sheet? hs)).exists_text?_iff.mp ⟨old, hold⟩)
      simp only [setValueAt, edit, sheet, hs, goOn, Sheet.setCell, hnone]
      exact .refused _

/-- A trial is refused, or checks the cell and the cells it reaches. -/
theorem effect_tryValueAt (name : String) (row column : Nat) (text : String) :
    Effect b vars (.tryValueAt name row column text)
      (b.tryValueAt vars name row column text).book := by
  cases hs : b.sheet? name with
  | none =>
    simp only [tryValueAt, recomputeFrom, sheet, hs]
    exact .refused _
  | some s =>
    obtain rfl := name_of_sheet? hs
    by_cases hcell : row < s.rowCount ∧ column < s.columns
    · rw [tryValueAt_eq hs hcell.1 hcell.2]
      exact .tried text hs hcell.1 hcell.2
    · simp only [tryValueAt, recomputeFrom, sheet, hs, goOn, Sheet.cellId, hcell, ↓reduceIte]
      exact .refused _

/-- Every request has one of these effects. -/
theorem effect_serve (hb : b.WellFormed) (vars : Variables) (request : Request) :
    Effect b vars request (b.serve vars request) := by
  cases request with
  | addSheet name columns =>
    simp only [serve, addSheet]
    split
    · exact .refused _
    · next h => exact .added columns (by simpa using h)
  | setPropagationDepth depth => exact .configured depth
  | attach name range rules => exact effect_reshape (fun _ _ => Sheet.remade_of_attach) _
  | loadRows name rows => exact effect_reshape (fun _ _ => Sheet.remade_of_loadRows) _
  | insertRows name place rows => exact effect_reshape (fun _ _ => Sheet.remade_of_insertRows) _
  | removeRows name place count => exact effect_reshape (fun _ _ => Sheet.remade_of_removeRows) _
  | insertColumn name place fill =>
    exact effect_reshape (fun _ _ => Sheet.remade_of_insertColumn) _
  | removeColumn name place => exact effect_reshape (fun _ _ => Sheet.remade_of_removeColumn) _
  | setValueAt name row column text => exact effect_setValueAt hb name row column text
  | tryValueAt name row column text => exact effect_tryValueAt name row column text
  | recomputeAll name =>
    simp only [serve, recomputeAll, sheet]
    cases hs : b.sheet? name with
    | none => exact .refused _
    | some s =>
      obtain rfl := name_of_sheet? hs
      exact .checked _ _ hs
  | recomputeRow name row =>
    simp only [serve, recomputeRow, sheet]
    cases hs : b.sheet? name with
    | none => exact .refused _
    | some s =>
      obtain rfl := name_of_sheet? hs
      simp only [goOn]
      split
      · exact .refused _
      · exact .checked _ _ hs

end Serving

/-! ## The representation of reachable workbooks -/

namespace WellFormed

variable {b : Workbook}

/-- Putting a well-formed sheet keeps a workbook well formed. -/
theorem putSheet (hb : b.WellFormed) {s : Sheet} (hs : s.WellFormed) :
    (b.putSheet s).WellFormed where
  names := by
    rw [names_putSheet]
    exact hb.names
  sheets t ht := by
    rcases mem_putSheet ht with rfl | ⟨ht, -⟩
    · exact hs
    · exact hb.sheets t ht

/-- Checking cells of a well-formed sheet keeps a workbook well formed. -/
theorem checkCells (hb : b.WellFormed) {s : Sheet} (hs : s.WellFormed) (vars : Variables)
    (trial : Option Trial) (ids : List CellId) (propagated : Nat) :
    (b.checkCells vars trial s ids propagated).book.WellFormed :=
  let ⟨names, sheets⟩ :=
    hb.putSheet (hs.store (ids.map fun id => (id, b.probeCell vars trial s id)))
  ⟨names, sheets⟩

/-- No request spoils the representation. -/
theorem of_effect (hb : b.WellFormed) {vars : Variables} {request : Request} {b' : Workbook}
    (h : Effect b vars request b') : b'.WellFormed := by
  cases h with
  | refused => exact hb
  | @added name columns hnone =>
    constructor
    · have hnew : ∀ s ∈ b.sheets, s.name ≠ name := by
        simpa [Workbook.sheet?] using hnone
      simpa [sheetNames, List.nodup_append, Sheet.new] using ⟨hb.names, hnew⟩
    · intro s hs
      rcases List.mem_append.mp hs with hs | hs
      · exact hb.sheets s hs
      · obtain rfl := List.mem_singleton.mp hs
        exact Sheet.wellFormed_new name columns
  | configured depth => exact ⟨hb.names, hb.sheets⟩
  | checked ids propagated hs => exact hb.checkCells (hb.sheets _ (mem_of_sheet? hs)) ..
  | remade hs hremade =>
    have hwell := hremade.wellFormed (hb.sheets _ (mem_of_sheet? hs))
    exact (hb.putSheet hwell).checkCells hwell ..
  | @written s row column text hs hrow hcolumn =>
    have hwell := (hb.sheets s (mem_of_sheet? hs)).write row column text
    exact (hb.putSheet hwell).checkCells hwell ..
  | tried text hs hrow hcolumn => exact hb.checkCells (hb.sheets _ (mem_of_sheet? hs)) ..

end WellFormed

/-- Every reachable workbook is well formed. -/
theorem Reachable.wellFormed {b : Workbook} (h : b.Reachable) : b.WellFormed := by
  induction h with
  | new config => exact ⟨List.nodup_nil, fun s hs => absurd hs List.not_mem_nil⟩
  | serve _ vars request ih => exact ih.of_effect (effect_serve ih vars request)

end Workbook

end GridAudit
