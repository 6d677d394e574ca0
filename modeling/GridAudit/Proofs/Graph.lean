import Mathlib.Data.List.Nodup
import GridAudit.Grid.Schedule

/-!
# The graph of a sheet and its direct dependents

In a sheet of fewer than `2^32` cells the number of a cell and its place determine each other. The
graph built from a function that lists the places each cell reads has as dependents of a cell
exactly the other cells that list its place, and a schedule of at least one hop holds them all.
-/

namespace GridAudit

namespace CellId

/-- The index of a numbered index, while it has 32 bits. -/
theorem index_ofIndex {i : Nat} (h : i < UInt32.size) : (ofIndex i).index = i :=
  UInt32.toNat_ofNat_of_lt' h

/-- A place comes before the end of a sheet. -/
theorem rowMajor_lt {row column rows columns : Nat} (hrow : row < rows)
    (hcolumn : column < columns) : row * columns + column < rows * columns := by
  calc row * columns + column < row * columns + columns := by omega
    _ = (row + 1) * columns := (Nat.succ_mul row columns).symm
    _ ≤ rows * columns := Nat.mul_le_mul_right columns hrow

/-- The index of a place counts the cells before it, row by row. -/
theorem index_ofPlace {row column rows columns : Nat} (hrow : row < rows)
    (hcolumn : column < columns) (hsize : rows * columns < UInt32.size) :
    (ofPlace row column columns).index = row * columns + column :=
  index_ofIndex (Nat.lt_trans (rowMajor_lt hrow hcolumn) hsize)

/-- The index of a place comes before the end of a sheet, also where indices have more than 32
bits. -/
theorem index_ofPlace_lt {row column rows columns : Nat} (hrow : row < rows)
    (hcolumn : column < columns) : (ofPlace row column columns).index < rows * columns := by
  have hmod : (ofPlace row column columns).index = (row * columns + column) % UInt32.size :=
    UInt32.toNat_ofNat
  rw [hmod]
  exact Nat.lt_of_le_of_lt (Nat.mod_le _ _) (rowMajor_lt hrow hcolumn)

/-- The place of a cell is the one it was numbered by. -/
theorem place_ofPlace {row column rows columns : Nat} (hrow : row < rows)
    (hcolumn : column < columns) (hsize : rows * columns < UInt32.size) :
    (ofPlace row column columns).place columns = (row, column) := by
  have hpos : 0 < columns := Nat.zero_lt_of_lt hcolumn
  simp only [place, index_ofPlace hrow hcolumn hsize, Nat.ne_of_gt hpos, ↓reduceIte]
  rw [Nat.mul_comm row columns, Nat.mul_add_div hpos, Nat.mul_add_mod,
    Nat.div_eq_of_lt hcolumn, Nat.mod_eq_of_lt hcolumn, Nat.add_zero]

/-- The place of a cell of a sheet is within the sheet. -/
theorem place_lt {id : CellId} {rows columns : Nat} (h : id.index < rows * columns) :
    (id.place columns).1 < rows ∧ (id.place columns).2 < columns := by
  have hpos : 0 < columns := Nat.pos_of_ne_zero fun hzero => by simp [hzero] at h
  simp only [place, Nat.ne_of_gt hpos, ↓reduceIte]
  exact ⟨Nat.div_lt_of_lt_mul (by rwa [Nat.mul_comm]), Nat.mod_lt _ hpos⟩

/-- A cell of a sheet is numbered by its place. -/
theorem ofPlace_place {id : CellId} {rows columns : Nat} (h : id.index < rows * columns) :
    ofPlace (id.place columns).1 (id.place columns).2 columns = id := by
  have hpos : 0 < columns := Nat.pos_of_ne_zero fun hzero => by simp [hzero] at h
  simp only [place, Nat.ne_of_gt hpos, ↓reduceIte, ofPlace]
  rw [Nat.mul_comm, Nat.div_add_mod]
  exact UInt32.ofNat_toNat

/-- Leaving out adjacent repeats loses no number. -/
theorem mem_eraseReps {ids : List CellId} {id : CellId} : id ∈ ids.eraseReps ↔ id ∈ ids := by
  have hloop (first : CellId) (rest kept : List CellId) :
      id ∈ List.eraseRepsBy.loop (· == ·) first rest kept ↔
        id ∈ kept ∨ id = first ∨ id ∈ rest := by
    induction rest generalizing first kept with
    | nil => simp [List.eraseRepsBy.loop, or_comm]
    | cons next rest ih =>
      unfold List.eraseRepsBy.loop
      by_cases h : first = next
      · simp [h, ih]
      · simp only [beq_eq_false_iff_ne.mpr h, ih, List.mem_cons, or_assoc]
        exact or_left_comm
  cases ids with
  | nil => rfl
  | cons first rest => simpa [List.eraseReps, List.eraseRepsBy] using hloop first rest []

/-- Sorting numbers loses none. -/
theorem mem_ascending {ids : List CellId} {id : CellId} : id ∈ ascending ids ↔ id ∈ ids := by
  rw [ascending, mem_eraseReps, List.mem_mergeSort]

/-- Numbers in order ascend strictly once adjacent repeats are left out. -/
theorem pairwise_lt_eraseReps {ids : List CellId} (h : ids.Pairwise (· ≤ ·)) :
    ids.eraseReps.Pairwise (· < ·) := by
  have hloop (first : CellId) (rest kept : List CellId) (hkept : (first :: kept).Pairwise (· > ·))
      (hrest : (first :: rest).Pairwise (· ≤ ·)) :
      (List.eraseRepsBy.loop (· == ·) first rest kept).Pairwise (· < ·) := by
    induction rest generalizing first kept with
    | nil => exact List.pairwise_reverse.mpr hkept
    | cons next rest ih =>
      unfold List.eraseRepsBy.loop
      obtain ⟨hfirst, hnext⟩ := List.pairwise_cons.mp hrest
      by_cases heq : first = next
      · subst heq
        simpa using ih first kept hkept hnext
      · have hlt : first < next := UInt32.lt_of_le_of_ne (hfirst next List.mem_cons_self) heq
        simp only [beq_eq_false_iff_ne.mpr heq]
        refine ih next (first :: kept) (List.pairwise_cons.mpr ⟨fun id hid => ?_, hkept⟩) hnext
        rcases List.mem_cons.mp hid with rfl | hid
        · exact hlt
        · exact UInt32.lt_trans (List.rel_of_pairwise_cons hkept hid) hlt
  cases ids with
  | nil => exact List.Pairwise.nil
  | cons first rest => exact hloop first rest [] (List.pairwise_singleton _ _) h

/-- Numbers in ascending order ascend strictly, so that none is repeated. -/
theorem pairwise_lt_ascending (ids : List CellId) : (ascending ids).Pairwise (· < ·) := by
  refine pairwise_lt_eraseReps ?_
  have htrans (a b c : CellId) (hab : decide (a ≤ b)) (hbc : decide (b ≤ c)) : decide (a ≤ c) :=
    decide_eq_true (UInt32.le_trans (of_decide_eq_true hab) (of_decide_eq_true hbc))
  have htotal (a b : CellId) : decide (a ≤ b) || decide (b ≤ a) := by
    simpa using UInt32.le_total a b
  exact (List.pairwise_mergeSort htrans htotal ids).imp of_decide_eq_true

end CellId

namespace CellGraph

/-- Adding a dependency adds that one alone. -/
theorem mem_insert {known : List Dependency} {d e : Dependency} :
    e ∈ insert known d ↔ e ∈ known ∨ e = d := by
  unfold insert
  by_cases h : d ∈ known
  · simp only [List.contains_iff_mem, h, ↓reduceIte]
    exact ⟨.inl, fun he => he.elim id fun heq => heq ▸ h⟩
  · simp [h]

/-- Dependencies added in turn are all there, beside those known before. -/
theorem mem_foldl_insert {known ds : List Dependency} {e : Dependency} :
    e ∈ ds.foldl insert known ↔ e ∈ known ∨ e ∈ ds := by
  induction ds generalizing known with
  | nil => simp
  | cons d rest ih => rw [List.foldl_cons, ih, mem_insert, List.mem_cons, or_assoc]

/-- The places of a sheet are those within its rows and columns. -/
theorem mem_places {rows columns row column : Nat} :
    (row, column) ∈ places rows columns ↔ row < rows ∧ column < columns := by
  simp [places]

/-- No place of a sheet is repeated. -/
theorem nodup_places (rows columns : Nat) : (places rows columns).Nodup :=
  List.nodup_range.product List.nodup_range

/-- A built graph has a dependency for each place within the sheet that a cell lists, unless it is
the place of the cell itself. -/
theorem mem_dependencies_build {rows columns : Nat} {targets : Nat → Nat → List (Nat × Nat)}
    {d : Dependency} :
    d ∈ (build rows columns targets).dependencies ↔
      ∃ row column, row < rows ∧ column < columns ∧ d.reader = CellId.ofPlace row column columns ∧
        ∃ t ∈ targets row column, t.1 < rows ∧ t.2 < columns ∧
          d.source = CellId.ofPlace t.1 t.2 columns ∧ d.source ≠ d.reader := by
  obtain ⟨source, reader⟩ := d
  simp only [build, List.mem_flatMap, mem_foldl_insert, dependenciesOf, List.mem_filterMap,
    List.mem_filter, Prod.exists, mem_places]
  constructor
  · rintro ⟨row, column, ⟨hrow, hcolumn⟩, h | ⟨trow, tcolumn, ⟨htarget, hbounds⟩, h⟩⟩
    · simp at h
    · split at h
      · contradiction
      · next hself =>
        obtain ⟨rfl, rfl⟩ := Dependency.mk.inj (Option.some.inj h)
        simp only [Bool.and_eq_true, decide_eq_true_eq] at hbounds
        exact ⟨row, column, hrow, hcolumn, rfl, trow, tcolumn, htarget, hbounds.1, hbounds.2, rfl,
          hself⟩
  · rintro ⟨row, column, hrow, hcolumn, rfl, trow, tcolumn, htarget, htrow, htcolumn, rfl, hself⟩
    refine ⟨row, column, ⟨hrow, hcolumn⟩, .inr ⟨trow, tcolumn, ⟨htarget, by simp [*]⟩, ?_⟩⟩
    simp [hself]

/-- The cells that read a cell are the readers of its dependencies. -/
theorem mem_readersOf {g : CellGraph} {id reader : CellId} :
    reader ∈ g.readersOf id ↔ ⟨id, reader⟩ ∈ g.dependencies := by
  simp only [readersOf, List.mem_map, List.mem_filter, decide_eq_true_eq]
  constructor
  · rintro ⟨⟨source, _⟩, ⟨hd, rfl⟩, rfl⟩
    exact hd
  · exact fun hd => ⟨_, ⟨hd, rfl⟩, rfl⟩

/-- The cells that read a cell of a built graph, whatever their order. -/
theorem mem_dependents {g : CellGraph} {id reader : CellId} :
    reader ∈ g.dependents id ↔ id.index < g.nodeCount ∧ ⟨id, reader⟩ ∈ g.dependencies := by
  unfold dependents within
  split
  · next h => simp only [CellId.mem_ascending, mem_readersOf, h, true_and]
  · next h => simp [h]

/-- A cell that lists the place of another cell is a dependent of that one. -/
theorem mem_dependents_build {rows columns : Nat} {targets : Nat → Nat → List (Nat × Nat)}
    {row column : Nat} (hrow : row < rows) (hcolumn : column < columns) {row' column' : Nat}
    (hrow' : row' < rows) (hcolumn' : column' < columns)
    (htarget : (row, column) ∈ targets row' column')
    (hself : CellId.ofPlace row column columns ≠ CellId.ofPlace row' column' columns) :
    CellId.ofPlace row' column' columns ∈
      (build rows columns targets).dependents (CellId.ofPlace row column columns) := by
  rw [mem_dependents, mem_dependencies_build]
  exact ⟨CellId.index_ofPlace_lt hrow hcolumn, row', column', hrow', hcolumn', rfl, _, htarget,
    hrow, hcolumn, rfl, hself⟩

/-- A change that spreads at all reaches every dependent of the cell. -/
theorem dependents_subset_schedule (g : CellGraph) (origin : CellId) {limit : Nat}
    (hlimit : 1 ≤ limit) :
    g.dependents origin ⊆ origin :: (g.schedule origin (Token.new limit)).1 := by
  intro id hid
  by_cases h : id = origin
  · exact h ▸ List.mem_cons_self
  · have hfresh : id ∈ (g.dependents origin).filter
        fun id => !((Token.new limit).visit origin).hasVisited id :=
      List.mem_filter.mpr ⟨hid, by simp [Token.visit, Token.new, Token.hasVisited, h]⟩
    have hhops : ¬ ((Token.new limit).visit origin).limit ≤ 0 := by
      simp only [Token.visit, Token.new, Token.hasVisited, List.contains_nil]
      exact Nat.not_le.mpr hlimit
    refine List.mem_cons_of_mem origin ?_
    simp only [schedule, spread, hhops, ↓reduceIte]
    exact List.mem_append_left _ hfresh

end CellGraph

end GridAudit
