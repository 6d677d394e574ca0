import GridAudit.Proofs.Flattening

/-!
# Inserting and removing rows and columns

Every change of the shape of a sheet makes it anew from its rows, its number of columns and its
rules, so what two changes in turn leave depends on what both do to the rows. Rows that are inserted
in two lots are inserted at once, and to remove what was inserted leaves the sheet made anew. In
a reachable workbook that sheet differs from the one before in its verdicts alone, and, as long as
it has no rows, in the graph of no cells; after a check of all cells nothing of it shows.
-/

namespace GridAudit

/-! ## Rows -/

/-- A row filled with empty cells. -/
def Sheet.filled (columns : Nat) (cells : List String) : List String :=
  cells ++ List.replicate (columns - cells.length) ""

section Lists

variable {α : Type} {place : Nat}

/-- What is inserted after what was inserted comes between it and the rest. -/
theorem splice_splice (rows new more : List α) (h : place ≤ rows.length) :
    let rows' := rows.take place ++ new ++ rows.drop place
    rows'.take (place + new.length) ++ more ++ rows'.drop (place + new.length) =
      rows.take place ++ (new ++ more) ++ rows.drop place := by
  intro rows'
  have hlength : (rows.take place ++ new).length = place + new.length := by
    rw [List.length_append, List.length_take_of_le h]
  have htake : rows'.take (place + new.length) = rows.take place ++ new :=
    List.take_left' hlength
  have hdrop : rows'.drop (place + new.length) = rows.drop place := List.drop_left' hlength
  rw [htake, hdrop]
  simp only [List.append_assoc]

/-- To take out what was inserted leaves what there was. -/
theorem unsplice_splice (rows new : List α) (h : place ≤ rows.length) :
    let rows' := rows.take place ++ new ++ rows.drop place
    rows'.take place ++ rows'.drop (place + new.length) = rows := by
  intro rows'
  have hlength : (rows.take place).length = place := List.length_take_of_le h
  have htake : rows'.take place = rows.take place := by
    rw [show rows' = rows.take place ++ (new ++ rows.drop place) from List.append_assoc ..]
    exact List.take_left' hlength
  have hdrop : rows'.drop (place + new.length) = rows.drop place :=
    List.drop_left' (by rw [List.length_append, hlength])
  rw [htake, hdrop, List.take_append_drop]

/-- To take out one item that was inserted leaves what there was. -/
theorem eraseIdx_splice (cells : List α) (a : α) (h : place ≤ cells.length) :
    (cells.take place ++ a :: cells.drop place).eraseIdx place = cells := by
  have hlength : (cells.take place).length = place := List.length_take_of_le h
  rw [List.eraseIdx_append_of_length_le hlength.le, hlength, Nat.sub_self, List.eraseIdx_cons_zero,
    List.take_append_drop]

end Lists

/-! ## Sheets -/

namespace Sheet

variable {s t : Sheet}

/-- The sheet made anew with another number of columns and other rows. -/
def reshaped (s : Sheet) (columns : Nat) (rows : List (List String)) : Sheet :=
  rebuild { s with columns, rows }

/-- A sheet made anew keeps its name. -/
@[simp] theorem name_reshaped (s : Sheet) (columns : Nat) (rows : List (List String)) :
    (s.reshaped columns rows).name = s.name := rfl

/-- Rows are filled unless one is too long. -/
theorem shapeRows_eq_ok {row : Nat} {rows shaped : List (List String)} :
    s.shapeRows row rows = .ok shaped ↔
      (∀ cells ∈ rows, cells.length ≤ s.columns) ∧ rows.map (filled s.columns) = shaped := by
  induction rows generalizing row shaped with
  | nil => simp [shapeRows]
  | cons cells rest ih =>
    have hfirst (first : List String) : s.shapeRow row cells = .ok first ↔
        cells.length ≤ s.columns ∧ filled s.columns cells = first := by
      unfold shapeRow filled
      split
      · next h => simp [Nat.not_le.mpr h]
      · next h => simp [Nat.not_lt.mp h]
    simp only [shapeRows, bind_eq_ok, hfirst, ih, List.forall_mem_cons, List.map_cons]
    constructor
    · rintro ⟨first, ⟨hcells, rfl⟩, more, ⟨hrest, rfl⟩, h⟩
      exact ⟨⟨hcells, hrest⟩, Except.ok.inj h⟩
    · rintro ⟨⟨hcells, hrest⟩, rfl⟩
      exact ⟨_, ⟨hcells, rfl⟩, _, ⟨hrest, rfl⟩, rfl⟩

/-- The rows of a sheet with more put in at a place. -/
def spliced (s : Sheet) (place : Nat) (rows : List (List String)) : List (List String) :=
  s.rows.take place ++ rows.map (filled s.columns) ++ s.rows.drop place

/-- Rows are inserted within the sheet unless one is too long. -/
theorem insertRows_eq_ok {place : Nat} {rows : List (List String)} :
    s.insertRows place rows = .ok t ↔
      (place ≤ s.rowCount ∧ ∀ cells ∈ rows, cells.length ≤ s.columns) ∧
        s.reshaped s.columns (s.spliced place rows) = t := by
  unfold insertRows
  split
  · next h => simp [Nat.not_le.mpr h]
  · next h =>
    simp only [bind_eq_ok, shapeRows_eq_ok, Nat.not_lt.mp h, true_and]
    constructor
    · rintro ⟨shaped, ⟨hrows, rfl⟩, h⟩
      exact ⟨hrows, Except.ok.inj h⟩
    · rintro ⟨hrows, rfl⟩
      exact ⟨_, ⟨hrows, rfl⟩, rfl⟩

/-- Rows that the sheet has are removed. -/
theorem removeRows_eq_ok {place count : Nat} :
    s.removeRows place count = .ok t ↔ place + count ≤ s.rowCount ∧
      s.reshaped s.columns (s.rows.take place ++ s.rows.drop (place + count)) = t := by
  unfold removeRows
  split
  · next h => simp [Nat.not_le.mpr h]
  · next h => simp [Nat.not_lt.mp h, reshaped]

/-- A column is inserted within the sheet. -/
theorem insertColumn_eq_ok {place : Nat} {fill : String} :
    s.insertColumn place fill = .ok t ↔ place ≤ s.columns ∧
      s.reshaped (s.columns + 1)
        (s.rows.map fun cells => cells.take place ++ fill :: cells.drop place) = t := by
  unfold insertColumn
  split
  · next h => simp [Nat.not_le.mpr h]
  · next h => simp [Nat.not_lt.mp h, reshaped]

/-- A column that the sheet has is removed. -/
theorem removeColumn_eq_ok {place : Nat} :
    s.removeColumn place = .ok t ↔ place < s.columns ∧
      s.reshaped (s.columns - 1) (s.rows.map fun cells => cells.eraseIdx place) = t := by
  unfold removeColumn
  split
  · next h => simp [Nat.not_lt.mpr h]
  · next h => simp [Nat.not_le.mp h, reshaped]

/-- What a sheet is made anew from: its number of columns, its rows and its rules. -/
def layout (s : Sheet) : Nat × List (List String) × List Attachment :=
  (s.columns, s.rows, s.attachments)

/-- A sheet whose graph is that of its shape and its rules, but for the columns of a graph of no
cells. -/
structure Standing (s : Sheet) : Prop extends s.WellFormed where
  graphRows : s.graph.rows = s.rowCount

namespace Standing

/-- Making a sheet anew leaves what is asked of its graph, where a graph of no cells has one
answer. -/
theorem eq_of_graph {α : Type} (h : s.Standing) (ask : CellGraph → α) {answer : α}
    (hnone : ∀ g : CellGraph, g.nodeCount = 0 → ask g = answer) :
    ask s.rebuild.graph = ask s.graph := by
  -- Only the graph of a sheet without rows may have other columns than the sheet.
  by_cases hrows : s.rows = []
  · have hcount : s.rowCount = 0 := by rw [rowCount, hrows, List.length_nil]
    have hrebuilt : s.rebuild.graph.nodeCount = 0 := by
      show s.rowCount * s.columns = 0
      rw [hcount, Nat.zero_mul]
    have hkept : s.graph.nodeCount = 0 := by
      rw [CellGraph.nodeCount, h.graphRows, hcount, Nat.zero_mul]
    rw [hnone _ hrebuilt, hnone _ hkept]
  · rw [h.built hrows]
    rfl

/-- Making a sheet anew leaves the addresses of its cells. -/
theorem addressOfId_rebuild (h : s.Standing) {id : CellId} (hid : id ∈ s.cellIds) :
    s.rebuild.addressOfId id = s.addressOfId id := by
  have hrows : s.rows ≠ [] := by
    rintro hrows
    have hlt := mem_cellIds.mp hid
    simp [rowCount, hrows] at hlt
  simp only [addressOfId, h.built hrows]
  rfl

/-- A sheet made anew shows as before when the verdicts of all cells are recorded. -/
theorem shownAlike_rebuild (h : s.Standing) (verdictOf : CellId → Verdict) :
    let verdicts := s.cellIds.map fun id => (id, verdictOf id)
    (s.rebuild.store verdicts).ShownAlike (s.store verdicts) := by
  intro verdicts
  have hwithin (id : CellId) (g : CellGraph) (hg : g.nodeCount = 0) (ids : List CellId) :
      g.within id ids = [] := CellGraph.within_eq_nil (hg ▸ Nat.zero_le _) ids
  constructor
  case name => rfl
  case texts => exact fun _ _ => rfl
  case verdicts =>
    refine verdictAt_recording_congr (s := s) fun id hid => ?_
    have hget (l : Ledger) : (verdicts.foldl (fun l v => l.insert v.1 v.2) l).get? id =
        some (verdictOf id) := by
      rw [Ledger.get?_foldl_insert, if_pos hid]
    exact (hget _).trans (hget _).symm
  case dependents => exact fun id => h.eq_of_graph (·.dependents id) fun g hg => hwithin id g hg _
  case precedents => exact fun id => h.eq_of_graph (·.precedents id) fun g hg => hwithin id g hg _

end Standing

end Sheet

/-! ## Workbooks -/

namespace Workbook

variable {b : Workbook} {vars : Variables} {name : String} {s t : Sheet}

/-- The graphs of all sheets have as many rows as the sheets. -/
def GraphRows (b : Workbook) : Prop := ∀ s ∈ b.sheets, s.graph.rows = s.rowCount

namespace GraphRows

/-- Putting a sheet whose graph has its rows keeps the rows of all. -/
theorem putSheet (hb : b.GraphRows) (ht : t.graph.rows = t.rowCount) :
    (b.putSheet t).GraphRows := by
  intro s hs
  rcases mem_putSheet hs with rfl | ⟨hs, -⟩
  · exact ht
  · exact hb s hs

/-- A check of cells only records verdicts. -/
theorem checkCells (hb : b.GraphRows) (ht : t.graph.rows = t.rowCount) (trial : Option Trial)
    (ids : List CellId) (propagated : Nat) :
    (b.checkCells vars trial t ids propagated).book.GraphRows :=
  hb.putSheet (t := t.store (ids.map fun id => (id, b.probeCell vars trial t id))) ht

/-- Every request keeps the rows of all graphs. -/
theorem of_effect (hb : b.GraphRows) {request : Request} {b' : Workbook}
    (h : Effect b vars request b') : b'.GraphRows := by
  cases h with
  | refused => exact hb
  | @added name columns =>
    intro s hs
    rcases List.mem_append.mp hs with hs | hs
    · exact hb s hs
    · obtain rfl := List.mem_singleton.mp hs
      rfl
  | configured => exact hb
  | checked ids propagated hs => exact hb.checkCells (hb _ (mem_of_sheet? hs)) _ _ _
  | @remade _ s s' hs hremade =>
    have ht : s'.graph.rows = s'.rowCount := by
      rw [← hremade.fresh]
      rfl
    exact (hb.putSheet ht).checkCells ht _ _ _
  | @written s row column text hs =>
    have ht : (s.write row column text).graph.rows = (s.write row column text).rowCount := by
      rw [Sheet.rowCount_write]
      exact hb _ (mem_of_sheet? hs)
    exact (hb.putSheet ht).checkCells ht _ _ _
  | tried text hs => exact hb.checkCells (hb _ (mem_of_sheet? hs)) _ _ _

end GraphRows

/-- The graphs of a workbook that requests lead to have the rows of their sheets. -/
theorem Reachable.graphRows (hb : b.Reachable) : b.GraphRows := by
  induction hb with
  | new => exact fun s hs => absurd hs List.not_mem_nil
  | serve hb vars request ih => exact ih.of_effect (effect_serve hb.wellFormed vars request)

/-- The sheets of a workbook that requests lead to stand. -/
theorem Reachable.standing (hb : b.Reachable) (hs : s ∈ b.sheets) : s.Standing :=
  ⟨hb.wellFormed.sheets s hs, hb.graphRows s hs⟩

/-- A check of all of a sheet, as it is, is the check of all of it when it is put again. -/
theorem WellFormed.recomputeAll_eq (hb : b.WellFormed) (hs : b.sheet? s.name = some s) :
    b.recomputeAll vars s.name = b.checkedWith vars s := by
  have hput : b.putSheet s = b :=
    Workbook.mk.injEq .. ▸ ⟨(hb.replaces_self hs).sheets.symm, rfl, rfl⟩
  simp only [recomputeAll, sheet_eq_ok.mpr hs, goOn, checkedWith, hput, Sheet.cellIds]

/-- Making a sheet anew and checking all of it is answered like checking all of it as it is. -/
theorem Reachable.answeredAlike_rebuild (hb : b.Reachable) (hs : b.sheet? s.name = some s) :
    AnsweredAlike (b.checkedWith vars s.rebuild) (b.recomputeAll vars s.name) := by
  have hstanding := hb.standing (mem_of_sheet? hs)
  have hcells : (b.putSheet s.rebuild).overlaid none = (b.putSheet s).overlaid none :=
    cellText_putSheet_of_rows_eq b rfl rfl
  have hprobe : ∀ id ∈ s.cellIds, (b.putSheet s.rebuild).probeCell vars none s.rebuild id =
      (b.putSheet s).probeCell vars none s id := by
    intro id hid
    simp only [probeCell, hcells, hstanding.addressOfId_rebuild hid]
    rfl
  have hverdicts : b.allVerdicts vars s.rebuild = b.allVerdicts vars s :=
    List.map_congr_left fun id hid => by rw [hprobe id hid]
  rw [hb.wellFormed.recomputeAll_eq hs]
  refine answeredAlike_of_shownAlike hs rfl ?_ ?_
  · refine congrArg (Report.ofVerdicts · 0) (List.map_congr_left fun id hid => ?_)
    rw [hprobe id hid, hstanding.addressOfId_rebuild hid]
  · rw [hverdicts]
    exact hstanding.shownAlike_rebuild _

/-- A change of a sheet that makes it anew is accepted when the sheet takes it. -/
theorem refusal?_reshape_eq_none (hs : b.sheet? s.name = some s)
    {change : Sheet → Except SheetError Sheet}
    (hchange : ∀ s s', change s = .ok s' → s.Remade s') :
    (b.reshape vars s.name change).refusal? = none ↔ ∃ t, change s = .ok t := by
  have hfound : b.sheet s.name >>= change = change s := by
    rw [sheet_eq_ok.mpr hs]
    rfl
  rw [(follows_reshape hchange).refusal?_eq, hfound]
  cases change s <;> simp [failure?]

/-! ## Changes of shape -/

/-- Rows are inserted by putting the sheet with them and checking all of it. -/
theorem insertRows_eq (hs : b.sheet? s.name = some s) {place : Nat} {rows : List (List String)}
    (h : place ≤ s.rowCount ∧ ∀ cells ∈ rows, cells.length ≤ s.columns) :
    b.insertRows vars s.name place rows =
      b.checkedWith vars (s.reshaped s.columns (s.spliced place rows)) :=
  reshape_eq hs (Sheet.insertRows_eq_ok.mpr ⟨h, rfl⟩) (Sheet.name_reshaped ..)

/-- Rows are accepted within the sheet unless one is too long. -/
theorem refusal?_insertRows_eq_none (hs : b.sheet? s.name = some s) {place : Nat}
    {rows : List (List String)} : (b.insertRows vars s.name place rows).refusal? = none ↔
      place ≤ s.rowCount ∧ ∀ cells ∈ rows, cells.length ≤ s.columns := by
  refine (refusal?_reshape_eq_none hs fun _ _ => Sheet.remade_of_insertRows).trans ?_
  simp only [Sheet.insertRows_eq_ok, exists_and_left, exists_eq', and_true]

/-- Rows inserted after those inserted before are inserted with them. -/
theorem insertRows_insertRows_eq (hs : b.sheet? s.name = some s) {vars' : Variables} {place : Nat}
    {rows more : List (List String)} (h : (b.insertRows vars s.name place rows).refusal? = none)
    (h' : ((b.insertRows vars s.name place rows).book.insertRows vars' s.name
      (place + rows.length) more).refusal? = none) :
    (b.insertRows vars s.name place rows).book.insertRows vars' s.name (place + rows.length) more =
      b.insertRows vars' s.name place (rows ++ more) := by
  have hrows := (refusal?_insertRows_eq_none hs).mp h
  let t := s.reshaped s.columns (s.spliced place rows)
  let u := t.store (b.allVerdicts vars t)
  have hfound : (b.checkedWith vars t).book.sheet? s.name = some u :=
    sheet?_checkedWith_self hs (Sheet.name_reshaped ..)
  rw [insertRows_eq hs hrows] at h'
  have hmore := (refusal?_insertRows_eq_none (s := u) hfound).mp h'
  have hspliced : u.spliced (place + rows.length) more = s.spliced place (rows ++ more) := by
    have hsplice := splice_splice s.rows (rows.map (Sheet.filled s.columns))
      (more.map (Sheet.filled s.columns)) hrows.1
    rwa [List.length_map, ← List.map_append] at hsplice
  have hinserted : u.insertRows (place + rows.length) more =
      .ok (s.reshaped s.columns (s.spliced place (rows ++ more))) :=
    Sheet.insertRows_eq_ok.mpr ⟨hmore, congrArg (s.reshaped s.columns) hspliced⟩
  have hboth : ∀ cells ∈ rows ++ more, cells.length ≤ s.columns :=
    List.forall_mem_append.mpr ⟨hrows.2, hmore.2⟩
  rw [insertRows_eq hs ⟨hrows.1, hboth⟩]
  exact reshape_reshape_eq hs (Sheet.insertRows_eq_ok.mpr ⟨hrows, rfl⟩) (Sheet.name_reshaped ..)
    hinserted (Sheet.name_reshaped ..) vars'

/-- A reply that leaves a workbook with the columns, rows and rules of all sheets and otherwise as a
check of all of a sheet does. -/
structure Restores (b : Workbook) (vars : Variables) (name : String) (r : Reply Report) : Prop where
  checked : AnsweredAlike r (b.recomputeAll vars name)
  layouts : ∀ other, (r.book.sheet? other).map Sheet.layout = (b.sheet? other).map Sheet.layout

/-- A sheet made anew restores a workbook that requests lead to. -/
theorem Reachable.restores_checkedWith (hb : b.Reachable) (hs : b.sheet? s.name = some s) :
    Restores b vars s.name (b.checkedWith vars s.rebuild) := by
  refine ⟨hb.answeredAlike_rebuild hs, fun other => ?_⟩
  rw [sheet?_checkedWith]
  split
  · next h =>
    have hname : other = s.name := h
    rw [hname, hs]
    rfl
  · rfl

/-- Two changes of a sheet that leave its rows restore the workbook. -/
theorem Reachable.restores_of_reshape (hb : b.Reachable) (hs : b.sheet? s.name = some s)
    {vars' : Variables} {change change' : Sheet → Except SheetError Sheet} {columns : Nat}
    {rows : List (List String)} (h : change s = .ok (s.reshaped columns rows))
    (h' : ∀ verdicts, change' ((s.reshaped columns rows).store verdicts) =
      .ok (s.reshaped s.columns s.rows)) :
    Restores b vars' s.name
      ((b.reshape vars s.name change).book.reshape vars' s.name change') := by
  rw [reshape_reshape_eq hs h (Sheet.name_reshaped ..) (h' _) (Sheet.name_reshaped ..)]
  exact hb.restores_checkedWith hs

/-- To remove rows that were inserted restores the workbook. -/
theorem Reachable.restores_insertRows (hb : b.Reachable) (hs : b.sheet? s.name = some s)
    {vars' : Variables} {place : Nat} {rows : List (List String)}
    (h : (b.insertRows vars s.name place rows).refusal? = none) :
    Restores b vars' s.name
      ((b.insertRows vars s.name place rows).book.removeRows vars' s.name place rows.length) := by
  have hrows := (refusal?_insertRows_eq_none hs).mp h
  refine hb.restores_of_reshape hs (Sheet.insertRows_eq_ok.mpr ⟨hrows, rfl⟩) fun verdicts => ?_
  have hlength : (rows.map (Sheet.filled s.columns)).length = rows.length := List.length_map _
  have hfits : place + rows.length ≤ (s.spliced place rows).length := by
    rw [Sheet.spliced, List.length_append, List.length_append, hlength,
      List.length_take_of_le hrows.1]
    exact Nat.le_add_right ..
  have hleft := unsplice_splice s.rows (rows.map (Sheet.filled s.columns)) hrows.1
  rw [hlength] at hleft
  exact Sheet.removeRows_eq_ok.mpr ⟨hfits, congrArg (s.reshaped s.columns) hleft⟩

/-- To remove a column that was inserted restores the workbook. -/
theorem Reachable.restores_insertColumn (hb : b.Reachable) (hs : b.sheet? s.name = some s)
    {vars' : Variables} {place : Nat} {fill : String}
    (h : (b.insertColumn vars s.name place fill).refusal? = none) :
    Restores b vars' s.name
      ((b.insertColumn vars s.name place fill).book.removeColumn vars' s.name place) := by
  obtain ⟨t, ht⟩ := (refusal?_reshape_eq_none hs fun _ _ => Sheet.remade_of_insertColumn).mp h
  have hplace := (Sheet.insertColumn_eq_ok.mp ht).1
  refine hb.restores_of_reshape hs (Sheet.insertColumn_eq_ok.mpr ⟨hplace, rfl⟩) fun verdicts => ?_
  have hwell := hb.wellFormed.sheets s (mem_of_sheet? hs)
  have hrows : (s.rows.map fun cells => cells.take place ++ fill :: cells.drop place).map
      (fun cells => cells.eraseIdx place) = s.rows := by
    rw [List.map_map]
    refine (List.map_congr_left fun cells hcells => ?_).trans (List.map_id _)
    exact eraseIdx_splice cells fill (hwell.rectangular cells hcells ▸ hplace)
  exact Sheet.removeColumn_eq_ok.mpr
    ⟨Nat.lt_succ_of_le hplace, congrArg (s.reshaped s.columns) hrows⟩

/-- How the shape of a sheet can be changed. -/
structure Splices (b : Workbook) (name : String) (s : Sheet) : Prop where
  /-- Rows are inserted within the sheet unless one is too long. -/
  accepted : ∀ vars place rows, (b.insertRows vars name place rows).refusal? = none ↔
    place ≤ s.rowCount ∧ ∀ cells ∈ rows, cells.length ≤ s.columns
  /-- The rows inserted are filled and come between those before and those after. -/
  inserted : ∀ vars place rows, (b.insertRows vars name place rows).refusal? = none →
    ∃ t, (b.insertRows vars name place rows).book.sheet? name = some t ∧ t.columns = s.columns ∧
      t.rows = s.rows.take place ++ rows.map (Sheet.filled s.columns) ++ s.rows.drop place
  /-- Rows inserted after those inserted before are inserted with them. -/
  joined : ∀ vars vars' place rows more,
    (b.insertRows vars name place rows).refusal? = none →
    ((b.insertRows vars name place rows).book.insertRows vars' name (place + rows.length)
      more).refusal? = none →
    (b.insertRows vars name place rows).book.insertRows vars' name (place + rows.length) more =
      b.insertRows vars' name place (rows ++ more)
  /-- To remove rows that were inserted restores the workbook. -/
  rowsRemoved : ∀ vars vars' place rows, (b.insertRows vars name place rows).refusal? = none →
    Restores b vars' name
      ((b.insertRows vars name place rows).book.removeRows vars' name place rows.length)
  /-- To remove a column that was inserted restores the workbook. -/
  columnRemoved : ∀ vars vars' place fill, (b.insertColumn vars name place fill).refusal? = none →
    Restores b vars' name ((b.insertColumn vars name place fill).book.removeColumn vars' name place)

/-- In a workbook that requests lead to, changes of the shape of a sheet are exact and undo each
other. -/
theorem Reachable.splices (hb : b.Reachable) (hs : b.sheet? name = some s) :
    Splices b name s := by
  obtain rfl := name_of_sheet? hs
  constructor
  case accepted => exact fun _ _ _ => refusal?_insertRows_eq_none hs
  case inserted =>
    intro vars place rows h
    let t := s.reshaped s.columns (s.spliced place rows)
    refine ⟨t.store (b.allVerdicts vars t), ?_, rfl, rfl⟩
    rw [insertRows_eq hs ((refusal?_insertRows_eq_none hs).mp h)]
    exact sheet?_checkedWith_self hs (Sheet.name_reshaped ..)
  case joined => exact fun _ _ _ _ _ => insertRows_insertRows_eq hs
  case rowsRemoved => exact fun _ _ _ _ => hb.restores_insertRows hs
  case columnRemoved => exact fun _ _ _ _ => hb.restores_insertColumn hs

/-- A filled and an empty row are inserted between the rows of `pairBook`, and a column after its
last; to remove them restores it. -/
theorem splices_pairBook :
    ∃ s, pairBook.sheet? "S" = some s ∧ Splices pairBook "S" s ∧
      s.spliced 1 [["x"], []] = [["a"], ["x"], [""], ["a"]] ∧
      (pairBook.insertRows .empty "S" 1 [["x"], []]).refusal? = none ∧
      (pairBook.insertColumn .empty "S" 1 "y").refusal? = none :=
  ⟨_, rfl, pairBook_reachable.splices rfl, rfl, rfl, rfl⟩

end Workbook

end GridAudit
