import Mathlib.Data.List.Sort
import Mathlib.Data.Set.Card
import GridAudit.Proofs.Search

/-!
# A graph is the relation of references

In a sheet of fewer than `2^32` cells the graph that is built from the places each cell lists is
just the relation between a cell and the other cells whose places it lists: every list asked of the
graph is that of the relation or its converse, in strictly ascending order, and every pair of the
relation is one dependency. The edges that leave a cell lead to all related ones, by their kind to
the dependents or to the precedents.
-/

namespace GridAudit

namespace CellId

/-- A list of the same numbers that ascends strictly is the list in ascending order. -/
theorem ascending_eq {ids sorted : List CellId} (hsorted : sorted.Pairwise (· < ·))
    (h : ∀ id, id ∈ ids ↔ id ∈ sorted) : ascending ids = sorted := by
  apply (pairwise_lt_ascending ids).eq_of_mem_iff hsorted
  intro id
  rw [mem_ascending, h]

end CellId

namespace CellGraph

variable {g : CellGraph} {rows columns : Nat} {targets : Nat → Nat → List (Nat × Nat)}

/-! ## The dependencies -/

/-- Adding dependencies in turn repeats none. -/
theorem nodup_foldl_insert {known : List Dependency} (h : known.Nodup) (ds : List Dependency) :
    (ds.foldl insert known).Nodup := by
  induction ds generalizing known with
  | nil => exact h
  | cons d rest ih =>
    apply ih
    unfold insert
    split
    · exact h
    · next hnew => exact List.nodup_append.mpr ⟨h, by simp, by grind⟩

/-- No dependency of a built graph is repeated. -/
theorem nodup_dependencies_build (hsize : rows * columns < UInt32.size) :
    (build rows columns targets).dependencies.Nodup := by
  have hreader {p : Nat × Nat} {d : Dependency} (hd : d ∈ (dependenciesOf rows columns
      (.ofPlace p.1 p.2 columns) (targets p.1 p.2)).foldl insert []) :
      d.reader = .ofPlace p.1 p.2 columns := by
    have hd := (mem_foldl_insert.mp hd).resolve_left List.not_mem_nil
    obtain ⟨t, -, ht⟩ := List.mem_filterMap.mp hd
    dsimp only at ht
    split at ht
    · contradiction
    · exact (congrArg Dependency.reader (Option.some.inj ht)).symm
  refine List.nodup_flatMap.mpr ⟨fun p _ => nodup_foldl_insert List.nodup_nil _, ?_⟩
  -- dependencies of different readers differ, as the number of a cell determines its place
  refine (nodup_places rows columns).imp_of_mem fun {p q} hp hq hne d hd hd' => hne ?_
  obtain ⟨hrow, hcolumn⟩ := mem_places.mp hp
  obtain ⟨hrow', hcolumn'⟩ := mem_places.mp hq
  calc p = (CellId.ofPlace p.1 p.2 columns).place columns :=
        (CellId.place_ofPlace hrow hcolumn hsize).symm
    _ = (CellId.ofPlace q.1 q.2 columns).place columns := by rw [← hreader hd, hreader hd']
    _ = q := CellId.place_ofPlace hrow' hcolumn' hsize

/-- A cell lists the place of another one. -/
def Reads (columns : Nat) (targets : Nat → Nat → List (Nat × Nat)) (reader source : CellId) :
    Prop :=
  source ≠ reader ∧
    source.place columns ∈ targets (reader.place columns).1 (reader.place columns).2

/-- The dependencies of a built graph are between the cells of the sheet where one reads the
other. -/
theorem mem_dependencies_iff_reads (hsize : rows * columns < UInt32.size) {source reader : CellId} :
    ⟨source, reader⟩ ∈ (build rows columns targets).dependencies ↔
      source.index < rows * columns ∧ reader.index < rows * columns ∧
        Reads columns targets reader source := by
  rw [mem_dependencies_build]
  constructor
  · rintro ⟨row, column, hrow, hcolumn, hreader, t, ht, htrow, htcolumn, hsource, hne⟩
    dsimp only at hreader hsource hne
    refine ⟨?_, ?_, hne, ?_⟩
    · rw [hsource]
      exact CellId.index_ofPlace_lt htrow htcolumn
    · rw [hreader]
      exact CellId.index_ofPlace_lt hrow hcolumn
    · rw [hreader, hsource, CellId.place_ofPlace hrow hcolumn hsize,
        CellId.place_ofPlace htrow htcolumn hsize]
      exact ht
  · rintro ⟨hsource, hreader, hne, htarget⟩
    obtain ⟨hrow, hcolumn⟩ := CellId.place_lt hreader
    obtain ⟨htrow, htcolumn⟩ := CellId.place_lt hsource
    exact ⟨_, _, hrow, hcolumn, (CellId.ofPlace_place hreader).symm, _, htarget, htrow, htcolumn,
      (CellId.ofPlace_place hsource).symm, hne⟩

/-! ## What is asked of a graph -/

/-- What is asked of a cell ascends strictly. -/
theorem pairwise_lt_within (g : CellGraph) (id : CellId) (ids : List CellId) :
    (g.within id ids).Pairwise (· < ·) := by
  unfold within
  split
  · exact CellId.pairwise_lt_ascending ids
  · exact List.Pairwise.nil

/-- The cells that a cell reads are the sources of its dependencies. -/
theorem mem_sourcesOf {id source : CellId} :
    source ∈ g.sourcesOf id ↔ ⟨source, id⟩ ∈ g.dependencies := by
  simp only [sourcesOf, List.mem_map, List.mem_filter, decide_eq_true_eq]
  constructor
  · rintro ⟨⟨_, reader⟩, ⟨hd, rfl⟩, rfl⟩
    exact hd
  · exact fun hd => ⟨_, ⟨hd, rfl⟩, rfl⟩

/-- The cells that a cell of a graph reads, whatever their order. -/
theorem mem_precedents {id source : CellId} :
    source ∈ g.precedents id ↔ id.index < g.nodeCount ∧ ⟨source, id⟩ ∈ g.dependencies := by
  unfold precedents within
  split
  · next h => simp only [CellId.mem_ascending, mem_sourcesOf, h, true_and]
  · next h => simp [h]

/-- The cells related to a cell are its dependents and its precedents. -/
theorem mem_related {id other : CellId} :
    other ∈ g.related id ↔ other ∈ g.dependents id ∨ other ∈ g.precedents id := by
  unfold related dependents precedents within
  split
  · simp only [CellId.mem_ascending, List.mem_append]
  · simp

/-- Nothing is asked of a number outside the sheet. -/
theorem within_eq_nil {id : CellId} (h : g.nodeCount ≤ id.index) (ids : List CellId) :
    g.within id ids = [] :=
  if_neg (Nat.not_lt.mpr h)

/-- Every pair of a cell and a dependent is one dependency. -/
theorem dependencyCount_eq_ncard (hnodup : g.dependencies.Nodup)
    (hwithin : ∀ d ∈ g.dependencies, d.source.index < g.nodeCount) :
    g.dependencyCount = {p : CellId × CellId | p.2 ∈ g.dependents p.1}.ncard := by
  let pair (d : Dependency) : CellId × CellId := (d.source, d.reader)
  have hinjective : pair.Injective := by
    rintro ⟨source, reader⟩ ⟨source', reader'⟩ h
    obtain ⟨rfl, rfl⟩ := Prod.mk.inj h
    rfl
  have hpairs : {p : CellId × CellId | p.2 ∈ g.dependents p.1} =
      ↑(g.dependencies.map pair).toFinset := by
    ext ⟨source, reader⟩
    simp only [Set.mem_ofPred_eq, mem_dependents, List.coe_toFinset, List.mem_map]
    constructor
    · rintro ⟨-, hd⟩
      exact ⟨_, hd, rfl⟩
    · rintro ⟨d, hd, h⟩
      obtain ⟨rfl, rfl⟩ := Prod.mk.inj h
      exact ⟨hwithin d hd, hd⟩
  rw [hpairs, Set.ncard_coe_finset, List.toFinset_card_of_nodup (hnodup.map hinjective),
    List.length_map, dependencyCount]

/-! ## Edges -/

/-- An edge of a kind leads to each dependent, and one of the other kind to each precedent. -/
theorem mem_stops {kinds : List EdgeKind} {id other : CellId} :
    other ∈ g.stops kinds id ↔
      (.dependency ∈ kinds ∧ ⟨id, other⟩ ∈ g.dependencies) ∨
        (.adjacent ∈ kinds ∧ ⟨other, id⟩ ∈ g.dependencies) := by
  simp only [stops, List.mem_map, List.mem_filter, List.mem_flatMap, decide_eq_true_eq]
  constructor
  · rintro ⟨e, ⟨⟨⟨source, reader⟩, hd, he⟩, rfl, hkind⟩, rfl⟩
    simp only [Dependency.edges, List.mem_cons, List.not_mem_nil, or_false] at he
    rcases he with rfl | rfl
    · exact .inl ⟨hkind, hd⟩
    · exact .inr ⟨hkind, hd⟩
  · rintro (⟨hkind, hd⟩ | ⟨hkind, hd⟩)
    · exact ⟨_, ⟨⟨_, hd, List.mem_cons_self⟩, rfl, hkind⟩, rfl⟩
    · exact ⟨_, ⟨⟨_, hd, List.mem_cons_of_mem _ List.mem_cons_self⟩, rfl, hkind⟩, rfl⟩

/-- What is asked of a cell depends on which cells are listed alone. -/
theorem within_congr {id : CellId} {ids ids' : List CellId}
    (h : ∀ other, other ∈ ids ↔ other ∈ ids') : g.within id ids = g.within id ids' := by
  have hascending := CellId.ascending_eq (CellId.pairwise_lt_ascending ids') fun other => by
    rw [h, CellId.mem_ascending]
  unfold within
  rw [hascending]

/-- Each list that is asked of a cell leads along the edges of its kind, and the last along all. -/
theorem edges_eq (id : CellId) : g.dependents id = g.within id (g.stops [.dependency] id) ∧
    g.precedents id = g.within id (g.stops [.adjacent] id) ∧
    g.related id = g.within id (g.stops [.dependency, .adjacent] id) := by
  refine ⟨within_congr fun other => ?_, within_congr fun other => ?_, within_congr fun other => ?_⟩
  · simp [mem_stops, mem_readersOf]
  · simp [mem_stops, mem_sourcesOf]
  · simp [mem_stops, mem_readersOf, mem_sourcesOf]

/-- A graph is a relation between the cells of a sheet: its lists are those of the relation and of
its converse in strictly ascending order, and lead along its edges. -/
structure Represents (g : CellGraph) (reads : CellId → CellId → Prop) : Prop where
  /-- The cells that read a cell. -/
  dependents : ∀ id, id.index < g.nodeCount → (g.dependents id).Pairwise (· < ·) ∧
    ∀ other, other ∈ g.dependents id ↔ other.index < g.nodeCount ∧ reads other id
  /-- The cells that a cell reads. -/
  precedents : ∀ id, id.index < g.nodeCount → (g.precedents id).Pairwise (· < ·) ∧
    ∀ other, other ∈ g.precedents id ↔ other.index < g.nodeCount ∧ reads id other
  /-- The cells of either list. -/
  related : ∀ id, id.index < g.nodeCount → (g.related id).Pairwise (· < ·) ∧
    ∀ other, other ∈ g.related id ↔ other ∈ g.dependents id ∨ other ∈ g.precedents id
  converse : ∀ id other, other ∈ g.dependents id ↔ id ∈ g.precedents other
  symmetric : ∀ id other, other ∈ g.related id ↔ id ∈ g.related other
  /-- Each pair is counted once. -/
  count : g.dependencyCount = {p : CellId × CellId | p.2 ∈ g.dependents p.1}.ncard
  outside : ∀ id, g.nodeCount ≤ id.index →
    g.dependents id = [] ∧ g.precedents id = [] ∧ g.related id = []
  /-- Each list leads along the edges of its kind, and the last along all. -/
  edges : ∀ id, g.dependents id = g.within id (g.stops [.dependency] id) ∧
    g.precedents id = g.within id (g.stops [.adjacent] id) ∧
    g.related id = g.within id (g.stops [.dependency, .adjacent] id)

/-- The graph of a sheet of fewer than `2^32` cells is the relation between a cell and the other
cells of the sheet whose places it lists, whatever else it lists, and however often. -/
theorem represents_build (hsize : rows * columns < UInt32.size)
    (targets : Nat → Nat → List (Nat × Nat)) :
    (build rows columns targets).Represents (Reads columns targets) := by
  have hdependency {source reader : CellId} :
      ⟨source, reader⟩ ∈ (build rows columns targets).dependencies ↔
        source.index < rows * columns ∧ reader.index < rows * columns ∧
          Reads columns targets reader source :=
    mem_dependencies_iff_reads hsize
  have hconverse (id other : CellId) : other ∈ (build rows columns targets).dependents id ↔
      id ∈ (build rows columns targets).precedents other := by
    rw [mem_dependents, mem_precedents, hdependency]
    exact ⟨fun h => ⟨h.2.2.1, h.2⟩, fun h => ⟨h.2.1, h.2⟩⟩
  constructor
  case dependents =>
    refine fun id hid => ⟨pairwise_lt_within _ _ _, fun other => ?_⟩
    rw [mem_dependents, hdependency]
    exact ⟨fun h => h.2.2, fun h => ⟨hid, hid, h⟩⟩
  case precedents =>
    refine fun id hid => ⟨pairwise_lt_within _ _ _, fun other => ?_⟩
    rw [mem_precedents, hdependency]
    exact ⟨fun h => ⟨h.2.1, h.2.2.2⟩, fun h => ⟨hid, h.1, hid, h.2⟩⟩
  case related => exact fun id _ => ⟨pairwise_lt_within _ _ _, fun other => mem_related⟩
  case converse => exact hconverse
  case symmetric =>
    intro id other
    rw [mem_related, mem_related, hconverse, ← hconverse other id, or_comm]
  case count =>
    refine dependencyCount_eq_ncard (nodup_dependencies_build hsize) fun d hd => ?_
    exact (hdependency.mp hd).1
  case outside => exact fun id hid =>
    ⟨within_eq_nil hid _, within_eq_nil hid _, within_eq_nil hid _⟩
  case edges => exact fun id => edges_eq id

/-- A sheet of three rows and columns. Two cells read each other, one of them lists the other place
twice, and the last cell reads itself and a place outside. -/
def sampleTargets : Nat → Nat → List (Nat × Nat)
  | 0, 0 => [(1, 1)]
  | 0, 1 => [(0, 0)]
  | 1, 1 => [(0, 0), (0, 1), (0, 0)]
  | 2, 2 => [(2, 2), (9, 9)]
  | _, _ => []

/-- The graph of `sampleTargets` is its relation, which has four pairs. -/
theorem represents_sampleTargets :
    let g := build 3 3 sampleTargets
    3 * 3 < UInt32.size ∧ g.Represents (Reads 3 sampleTargets) ∧ g.dependencyCount = 4 ∧
      g.dependents 0 = [1, 4] ∧ g.precedents 0 = [4] ∧ g.related 0 = [1, 4] := by
  have hlist {ids sorted : List CellId} (hsorted : sorted.Pairwise (· < ·))
      (hsubset : ids.all (· ∈ sorted)) (hsuperset : sorted.all (· ∈ ids)) :
      (build 3 3 sampleTargets).within 0 ids = sorted := by
    simp only [List.all_eq_true, decide_eq_true_eq] at hsubset hsuperset
    rw [within, if_pos (by decide)]
    exact CellId.ascending_eq hsorted fun id => ⟨hsubset id, hsuperset id⟩
  exact ⟨by decide, represents_build (by decide) sampleTargets, by decide,
    hlist (by decide) (by decide) (by decide), hlist (by decide) (by decide) (by decide),
    hlist (by decide) (by decide) (by decide)⟩

end CellGraph

end GridAudit
