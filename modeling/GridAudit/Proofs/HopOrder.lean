import GridAudit.Proofs.ReferenceRelation
import GridAudit.Proofs.Schedule

/-!
# The order within one hop

A search finds cells in turn: the dependents of a cell are found when that cell is taken from the
queue, in the order of their numbers. So a schedule goes by the cells that found its members, and by
numbers only among those that one cell found. Within the first hop, where the origin finds them all,
this is the order of the numbers; further away it need not be, as soon as two cells of one hop find
cells of the next.
-/

namespace GridAudit

namespace CellGraph

variable {g : CellGraph} {origin : CellId}

/-! ## The cells that find others -/

/-- The place in a list of the first cell whose dependent a cell is, which is the cell that finds it
when the list is worked off in order. -/
def finder (g : CellGraph) (cells : List CellId) (id : CellId) : Nat :=
  cells.findIdx fun cell => id ∈ g.dependents cell

/-- A cell is found before another one: by an earlier cell, or by the same cell and with a lower
number. -/
def FoundBefore (g : CellGraph) (cells : List CellId) (a b : CellId) : Prop :=
  g.finder cells a < g.finder cells b ∨ g.finder cells a = g.finder cells b ∧ a < b

/-- Cells that are added at the end find nothing that was found before. -/
theorem finder_append {cells : List CellId} {id : CellId} (h : g.finder cells id < cells.length)
    (more : List CellId) : g.finder (cells ++ more) id = g.finder cells id := by
  rw [finder, List.findIdx_append]
  exact if_pos h

/-- A dependent of a cell that is no dependent of the cells before it is found by that cell. -/
theorem finder_eq_length {before : List CellId} {cell id : CellId}
    (hbefore : ∀ c ∈ before, id ∉ g.dependents c) (hid : id ∈ g.dependents cell)
    (after : List CellId) : g.finder (before ++ cell :: after) id = before.length := by
  have hnone : before.findIdx (fun c => id ∈ g.dependents c) = before.length :=
    List.findIdx_eq_length.mpr fun c hc => by simpa using hbefore c hc
  rw [finder, List.findIdx_append, if_neg (by omega), List.findIdx_cons]
  simp [hid]

/-! ## Searches find in turn -/

/-- What a search has found after some cells were done: each cell by one of these, and in the order
in which it was found. -/
structure Search.InTurn (g : CellGraph) (origin : CellId) (done : List (CellId × Nat))
    (s : Search) : Prop where
  finder_lt : ∀ id ∈ s.found, g.finder (origin :: s.found) id < done.length
  ordered : s.found.Pairwise (g.FoundBefore (origin :: s.found))

namespace Search.InTurn

variable {done : List (CellId × Nat)} {cell : CellId} {hops : Nat}
  {waiting : List (CellId × Nat)} {found : List CellId} {token : Token}

/-- What the first cell that waits finds was not found by the cells that are done. -/
theorem finder_of_mem_unvisited
    (hlevels : Search.Levelled g origin done ⟨(cell, hops) :: waiting, found, token⟩)
    (hlimit : hops < token.limit) {id : CellId} (hid : id ∈ g.unvisited token cell)
    (more : List CellId) : g.finder (origin :: (found ++ more)) id = done.length := by
  obtain ⟨hdependent, hnew⟩ := mem_unvisited.mp hid
  rw [hlevels.visited] at hnew
  have hbefore : ∀ c ∈ done.map Prod.fst, id ∉ g.dependents c := by
    intro c hc hmem
    obtain ⟨p, hp, rfl⟩ := List.mem_map.mp hc
    have hnear : p.2 ≤ hops :=
      (List.pairwise_append.mp hlevels.sorted).2.2 p hp _ List.mem_cons_self
    exact hnew (hlevels.closed p hp (Nat.lt_of_le_of_lt hnear hlimit) hmem)
  have hcells := hlevels.cells
  rw [List.map_append, List.map_cons] at hcells
  have hsplit : origin :: (found ++ more) =
      done.map Prod.fst ++ cell :: (waiting.map Prod.fst ++ more) := by
    rw [← List.cons_append, ← hcells, List.append_assoc, List.cons_append]
  rw [hsplit, finder_eq_length hbefore hdependent, List.length_map]

/-- A search finds in turn while the first cell that waits finds its unvisited dependents. -/
theorem visit (h : Search.InTurn g origin done ⟨(cell, hops) :: waiting, found, token⟩)
    (hlevels : Search.Levelled g origin done ⟨(cell, hops) :: waiting, found, token⟩)
    (hlimit : hops < token.limit) :
    Search.InTurn g origin (done ++ [(cell, hops)])
      ⟨waiting ++ (g.unvisited token cell).map fun id => (id, hops + 1),
        found ++ g.unvisited token cell, token.visitAll (g.unvisited token cell)⟩ := by
  have hlength : done.length ≤ (origin :: found).length := by
    rw [← hlevels.cells, List.length_map, List.length_append]
    exact Nat.le_add_right ..
  -- What was found before keeps its finder, and what is found now has the cell just done.
  have hold : ∀ id ∈ found, g.finder (origin :: (found ++ g.unvisited token cell)) id =
      g.finder (origin :: found) id := fun id hid =>
    finder_append (Nat.lt_of_lt_of_le (h.finder_lt id hid) hlength) _
  have hnew : ∀ id ∈ g.unvisited token cell,
      g.finder (origin :: (found ++ g.unvisited token cell)) id = done.length := fun id hid =>
    finder_of_mem_unvisited hlevels hlimit hid _
  constructor
  case finder_lt =>
    simp only [List.length_append, List.length_singleton]
    refine List.forall_mem_append.mpr ⟨fun id hid => ?_, fun id hid => ?_⟩
    · rw [hold id hid]
      exact Nat.lt_succ_of_lt (h.finder_lt id hid)
    · rw [hnew id hid]
      exact Nat.lt_succ_self _
  case ordered =>
    refine List.pairwise_append.mpr ⟨?_, ?_, fun a ha b hb => .inl ?_⟩
    · refine h.ordered.imp_of_mem fun {a b} ha hb hab => ?_
      simpa only [FoundBefore, hold a ha, hold b hb] using hab
    · have hsorted : (g.unvisited token cell).Pairwise (· < ·) :=
        (pairwise_lt_within g cell _).filter _
      refine hsorted.imp_of_mem fun {a b} ha hb hab => .inr ⟨?_, hab⟩
      rw [hnew a ha, hnew b hb]
    · rw [hold a ha, hnew b hb]
      exact h.finder_lt a ha

/-- A turn goes on finding in turn. -/
theorem turn {s s' : Search} (h : s.InTurn g origin done) (hlevels : s.Levelled g origin done)
    (hturn : g.Turn s s') : ∃ done', s'.Levelled g origin done' ∧ s'.InTurn g origin done' := by
  cases hturn with
  | idle => exact ⟨done, hlevels, h⟩
  | stop hlimit =>
    refine ⟨_, hlevels.stop hlimit, fun id hid => ?_, h.ordered⟩
    rw [List.length_append]
    exact Nat.lt_add_right _ (h.finder_lt id hid)
  | visit hlimit => exact ⟨_, hlevels.visit hlimit, h.visit hlevels hlimit⟩

/-- Every search finds in turn throughout. -/
theorem iterate (g : CellGraph) (origin : CellId) (limit n : Nat) :
    ∃ done, (g.turn^[n] (.start origin (.new limit))).Levelled g origin done ∧
      (g.turn^[n] (.start origin (.new limit))).InTurn g origin done := by
  induction n with
  | zero =>
    refine ⟨[], Search.Levelled.start g origin limit, fun id hid => ?_, List.Pairwise.nil⟩
    exact absurd hid List.not_mem_nil
  | succ n ih =>
    rw [Function.iterate_succ_apply']
    obtain ⟨done, hlevels, h⟩ := ih
    exact h.turn hlevels (g.turn_turn _)

end Search.InTurn

/-! ## Schedules -/

/-- The order of the cells that a change of a cell reaches. -/
structure HopOrdered (g : CellGraph) (origin : CellId) (order : List CellId) : Prop where
  /-- Cells come in the order of the cells that find them, and in that of their numbers where one
  cell finds several. -/
  inTurn : order.Pairwise (g.FoundBefore (origin :: order))
  /-- Within the first hop cells come in the order of their numbers. -/
  firstHop : order.Pairwise fun a b =>
    g.Distance origin a 1 → g.Distance origin b 1 → a < b
  /-- Within every hop cells come in the order of their numbers just when later cells find cells of
  higher numbers there. -/
  ascending_iff : (order.Pairwise fun a b =>
      ∀ n, g.Distance origin a n → g.Distance origin b n → a < b) ↔
    ∀ a ∈ order, ∀ b ∈ order, ∀ n, g.Distance origin a n → g.Distance origin b n →
      g.finder (origin :: order) a < g.finder (origin :: order) b → a < b

/-- What is found by an earlier cell comes first. -/
theorem rel_of_finder_lt {cells order : List CellId} {R : CellId → CellId → Prop}
    (hfound : order.Pairwise (g.FoundBefore cells)) (hrel : order.Pairwise R) {a b : CellId}
    (ha : a ∈ order) (hb : b ∈ order) (hlt : g.finder cells a < g.finder cells b) : R a b := by
  obtain ⟨i, hi, rfl⟩ := List.getElem_of_mem ha
  obtain ⟨j, hj, rfl⟩ := List.getElem_of_mem hb
  rcases Nat.lt_trichotomy i j with hij | rfl | hji
  · exact List.pairwise_iff_getElem.mp hrel i j hi hj hij
  · exact absurd hlt (Nat.lt_irrefl _)
  · rcases List.pairwise_iff_getElem.mp hfound j i hj hi hji with hgt | ⟨heq, -⟩
    · exact absurd hgt (Nat.lt_asymm hlt)
    · exact absurd heq (Nat.ne_of_gt hlt)

/-- When nothing was visited before, a schedule lists cells in the order in which they are found,
which within the first hop is that of their numbers. -/
theorem hopOrdered_schedule (g : CellGraph) (origin : CellId) (limit : Nat) :
    g.HopOrdered origin (g.schedule origin (.new limit)).1 := by
  obtain ⟨done, -, h⟩ := Search.InTurn.iterate g origin limit (g.dependencyCount + 1)
  rw [iterate_turn_start] at h
  constructor
  case inTurn => exact h.ordered
  case firstHop =>
    -- the origin comes first and finds them all
    have hfinder {id : CellId} (hid : g.Distance origin id 1) :
        g.finder (origin :: (g.schedule origin (.new limit)).1) id = 0 := by
      obtain ⟨cell, hcell, hdependent⟩ := hid.exists_pred
      obtain rfl := hcell.eq_origin
      have hbefore : ∀ c ∈ ([] : List CellId), id ∉ g.dependents c :=
        fun _ hc => absurd hc List.not_mem_nil
      exact finder_eq_length hbefore hdependent _
    refine h.ordered.imp fun {a b} hab ha hb => ?_
    simpa [FoundBefore, hfinder ha, hfinder hb] using hab
  case ascending_iff =>
    constructor
    · intro hascending a ha b hb n hna hnb hlt
      exact rel_of_finder_lt h.ordered hascending ha hb hlt n hna hnb
    · intro hfinders
      refine h.ordered.imp_of_mem fun {a b} ha hb hab n hna hnb => ?_
      rcases hab with hlt | ⟨-, hlt⟩
      · exact hfinders a ha b hb n hna hnb hlt
      · exact hlt

/-- A sheet of one row. Two cells read the first one, and each of them is read by one further cell,
the first by the last. -/
def crossedTargets : Nat → Nat → List (Nat × Nat)
  | 0, 1 | 0, 2 => [(0, 0)]
  | 0, 3 => [(0, 2)]
  | 0, 4 => [(0, 1)]
  | _, _ => []

/-- Two hops away, cells need not come in the order of their numbers: a change of the first cell of
`crossedTargets` reaches the last cell before the one next to it. -/
theorem not_ascending_within_hops :
    ¬ ∀ (g : CellGraph) (origin : CellId) (limit : Nat),
      (g.schedule origin (.new limit)).1.Pairwise fun a b =>
        ∀ n, g.Distance origin a n → g.Distance origin b n → a < b := by
  intro h
  let g := build 1 5 crossedTargets
  have hdependents {id : CellId} {sorted : List CellId} (hid : id.index < g.nodeCount)
      (hsorted : sorted.Pairwise (· < ·)) (hreaders : g.readersOf id = sorted) :
      g.dependents id = sorted := by
    rw [dependents, within, if_pos hid]
    exact CellId.ascending_eq hsorted fun _ => by rw [hreaders]
  have h0 : g.dependents 0 = [1, 2] := hdependents (by decide) (by decide) (by decide)
  have h1 : g.dependents 1 = [4] := hdependents (by decide) (by decide) (by decide)
  have h2 : g.dependents 2 = [3] := hdependents (by decide) (by decide) (by decide)
  have hcount : g.dependencyCount = 4 := by decide
  have hschedule : (g.schedule 0 (.new 2)).1 = [1, 2, 4, 3] := by
    simp [schedule, hcount, spread, Token.new, Token.visit, Token.hasVisited, h0, h1, h2]
  have hdistance (cell : CellId) {id : CellId} (hcell : cell ∈ g.dependents 0)
      (hid : id ∈ g.dependents cell) (hne : id ≠ 0) (hfar : id ∉ g.dependents 0) :
      g.Distance 0 id 2 := by
    refine ⟨(Reaches.start.hop hcell).hop hid, fun m hm => ?_⟩
    cases hm with
    | start => contradiction
    | hop hm hdependent =>
      cases hm with
      | start => contradiction
      | hop => omega
  have hordered := h g 0 2
  rw [hschedule] at hordered
  have hlt : (4 : CellId) < 3 := by
    refine List.rel_of_pairwise_cons hordered.of_cons.of_cons List.mem_cons_self 2 ?_ ?_
    · exact hdistance 1 (by simp [h0]) (by simp [h1]) (by decide) (by simp [h0])
    · exact hdistance 2 (by simp [h0]) (by simp [h2]) (by decide) (by simp [h0])
  exact absurd hlt (by decide)

end CellGraph

end GridAudit
