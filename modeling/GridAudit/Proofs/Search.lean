import GridAudit.Proofs.Graph
import Mathlib.Data.Finset.Card
import Mathlib.Logic.Function.Iterate

/-!
# The search behind a schedule

The cells that a change reaches are found by a search with a queue, taken apart here into turns. The
search stops after one turn more than there are dependencies at the latest, and the schedule is what
it has found by then. Whatever was visited before, each cell is found once and marked as visited,
and nothing else is.
-/

namespace GridAudit

namespace Token

/-- The token after visiting further cells. -/
def visitAll (t : Token) (ids : List CellId) : Token := { t with visited := t.visited ++ ids }

/-- Visiting a cell keeps what was visited before. -/
@[simp] theorem hasVisited_visit (t : Token) (origin id : CellId) :
    (t.visit origin).hasVisited id ↔ t.hasVisited id ∨ id = origin := by
  unfold visit
  split
  · next h => exact ⟨.inl, fun hid => hid.elim (·) fun heq => heq ▸ h⟩
  · simp [hasVisited]

/-- Visiting further cells keeps what was visited before. -/
@[simp] theorem hasVisited_visitAll (t : Token) (ids : List CellId) (id : CellId) :
    (t.visitAll ids).hasVisited id ↔ t.hasVisited id ∨ id ∈ ids := by
  simp [visitAll, hasVisited]

/-- Visiting a cell changes no limit. -/
@[simp] theorem limit_visit (t : Token) (id : CellId) : (t.visit id).limit = t.limit := by
  unfold visit
  split <;> rfl

end Token

namespace CellGraph

/-- No cell is listed twice as a dependent. -/
theorem nodup_dependents (g : CellGraph) (id : CellId) : (g.dependents id).Nodup := by
  unfold dependents within
  split
  · exact (CellId.pairwise_lt_ascending _).imp fun h => UInt32.ne_of_lt h
  · exact List.nodup_nil

/-! ## Searches -/

/-- A search under way: the cells that wait, each with its number of hops, the cells found, and the
token. -/
structure Search where
  waiting : List (CellId × Nat)
  found : List CellId
  token : Token

/-- The search from a cell, which is visited at once. -/
def Search.start (origin : CellId) (token : Token) : Search :=
  ⟨[(origin, 0)], [], token.visit origin⟩

variable {g : CellGraph}

/-- The dependents of a cell that were not visited. -/
def unvisited (g : CellGraph) (token : Token) (cell : CellId) : List CellId :=
  (g.dependents cell).filter fun id => !token.hasVisited id

/-- One turn of a search. The first cell that waits is taken; unless it has used up its hops, its
unvisited dependents are found and wait in turn. -/
def turn (g : CellGraph) (s : Search) : Search :=
  match s.waiting with
  | [] => s
  | (cell, hops) :: waiting =>
    if s.token.limit ≤ hops then { s with waiting }
    else
      let fresh := g.unvisited s.token cell
      ⟨waiting ++ fresh.map fun id => (id, hops + 1), s.found ++ fresh, s.token.visitAll fresh⟩

/-- What a turn may do. -/
inductive Turn (g : CellGraph) : Search → Search → Prop
  /-- No cell waits. -/
  | idle (found : List CellId) (token : Token) : Turn g ⟨[], found, token⟩ ⟨[], found, token⟩
  /-- The first cell has used up its hops. -/
  | stop {cell : CellId} {hops : Nat} {waiting : List (CellId × Nat)} {found : List CellId}
      {token : Token} (h : token.limit ≤ hops) :
    Turn g ⟨(cell, hops) :: waiting, found, token⟩ ⟨waiting, found, token⟩
  /-- The unvisited dependents of the first cell are found. -/
  | visit {cell : CellId} {hops : Nat} {waiting : List (CellId × Nat)} {found : List CellId}
      {token : Token} (h : hops < token.limit) :
    Turn g ⟨(cell, hops) :: waiting, found, token⟩
      ⟨waiting ++ (g.unvisited token cell).map fun id => (id, hops + 1),
        found ++ g.unvisited token cell, token.visitAll (g.unvisited token cell)⟩

/-- Every turn does one of these things. -/
theorem turn_turn (g : CellGraph) (s : Search) : g.Turn s (g.turn s) := by
  obtain ⟨waiting, found, token⟩ := s
  cases waiting with
  | nil => exact .idle found token
  | cons first waiting =>
    simp only [turn]
    split
    · next h => exact .stop h
    · next h => exact .visit (Nat.lt_of_not_le h)

/-- An unvisited dependent is a dependent that was not visited. -/
theorem mem_unvisited {token : Token} {cell id : CellId} :
    id ∈ g.unvisited token cell ↔ id ∈ g.dependents cell ∧ ¬ token.hasVisited id := by
  simp [unvisited]

/-- No cell is listed twice as an unvisited dependent. -/
theorem nodup_unvisited (g : CellGraph) (token : Token) (cell : CellId) :
    (g.unvisited token cell).Nodup := (g.nodup_dependents cell).filter _

/-- Spreading from no cell finds none. -/
theorem spread_nil (g : CellGraph) (n : Nat) (token : Token) :
    g.spread n [] token = ([], token) := by
  cases n <;> rfl

/-- A number of turns find what as many steps of spreading find, after what was found before. -/
theorem iterate_turn (n : Nat) (s : Search) :
    (g.turn^[n] s).found = s.found ++ (g.spread n s.waiting s.token).1 ∧
      (g.turn^[n] s).token = (g.spread n s.waiting s.token).2 := by
  induction n generalizing s with
  | zero => simp [spread]
  | succ n ih =>
    rw [Function.iterate_succ_apply]
    obtain ⟨waiting, found, token⟩ := s
    cases waiting with
    | nil => simpa [turn, spread_nil] using ih ⟨[], found, token⟩
    | cons first waiting =>
      simp only [turn, spread]
      split
      · exact ih ⟨waiting, found, token⟩
      · obtain ⟨hfound, htoken⟩ := ih _
        refine ⟨hfound.trans ?_, htoken⟩
        exact List.append_assoc ..

/-! ## Searches stop -/

/-- The cells that read others and were not visited. -/
def unseen (g : CellGraph) (token : Token) : Finset CellId :=
  (g.dependencies.map Dependency.reader).toFinset.filter fun id => ¬ token.hasVisited id

/-- The number of turns a search may go on: every cell that waits takes one, and so does every cell
that may yet be found. -/
def ahead (g : CellGraph) (s : Search) : Nat := s.waiting.length + (g.unseen s.token).card

/-- Cells that are visited are no longer unseen. -/
theorem card_unseen_visitAll (g : CellGraph) (token : Token) (cell : CellId) :
    (g.unseen (token.visitAll (g.unvisited token cell))).card + (g.unvisited token cell).length =
      (g.unseen token).card := by
  have hunseen : g.unseen (token.visitAll (g.unvisited token cell)) =
      g.unseen token \ (g.unvisited token cell).toFinset := by
    ext id
    simp only [unseen, Finset.mem_filter, Finset.mem_sdiff, Token.hasVisited_visitAll,
      List.mem_toFinset, not_or, and_assoc]
  -- Every dependent reads some cell, so it was counted as long as it was not visited.
  have hsubset : (g.unvisited token cell).toFinset ⊆ g.unseen token := by
    intro id hid
    obtain ⟨hdependent, hnew⟩ := mem_unvisited.mp (List.mem_toFinset.mp hid)
    have hreader := List.mem_map_of_mem (f := Dependency.reader) (mem_dependents.mp hdependent).2
    exact Finset.mem_filter.mpr ⟨List.mem_toFinset.mpr hreader, hnew⟩
  rw [hunseen, ← List.toFinset_card_of_nodup (g.nodup_unvisited token cell)]
  exact Finset.card_sdiff_add_card_eq_card hsubset

/-- A turn brings a search that is not over one turn nearer to its end. -/
theorem Turn.ahead_eq {s s' : Search} (h : g.Turn s s') (hwaiting : s.waiting ≠ []) :
    g.ahead s' + 1 = g.ahead s := by
  cases h with
  | idle => contradiction
  | stop => simp only [ahead, List.length_cons]; omega
  | @visit cell hops waiting found token =>
    have hcard := g.card_unseen_visitAll token cell
    simp only [ahead, List.length_append, List.length_map, List.length_cons]
    omega

/-- After a number of turns a search is over, or as many turns nearer to its end. -/
theorem ahead_iterate (s : Search) (n : Nat) :
    (g.turn^[n] s).waiting = [] ∨ g.ahead (g.turn^[n] s) + n = g.ahead s := by
  induction n with
  | zero => exact .inr rfl
  | succ n ih =>
    rw [Function.iterate_succ_apply']
    -- A search that is over stays over.
    by_cases hover : (g.turn^[n] s).waiting = []
    · exact .inl (by simp only [turn, hover])
    · have hturn := (g.turn_turn _).ahead_eq hover
      have hahead := ih.resolve_left hover
      exact .inr (by omega)

/-- A search ends with the schedule as what it found, at the latest after one turn more than there
are dependencies. -/
theorem iterate_turn_start (g : CellGraph) (origin : CellId) (token : Token) :
    g.turn^[g.dependencyCount + 1] (.start origin token) =
      ⟨[], (g.schedule origin token).1, (g.schedule origin token).2⟩ := by
  have hahead : g.ahead (.start origin token) ≤ g.dependencyCount + 1 := by
    have hcard : (g.unseen (token.visit origin)).card ≤ g.dependencyCount :=
      calc (g.unseen (token.visit origin)).card
          ≤ (g.dependencies.map Dependency.reader).toFinset.card := Finset.card_filter_le _ _
        _ ≤ (g.dependencies.map Dependency.reader).length := List.toFinset_card_le _
        _ = g.dependencyCount := List.length_map _
    simp only [ahead, Search.start, List.length_singleton]
    omega
  have hover : (g.turn^[g.dependencyCount + 1] (.start origin token)).waiting = [] := by
    rcases g.ahead_iterate (.start origin token) (g.dependencyCount + 1) with hover | hleft
    · exact hover
    · refine List.eq_nil_of_length_eq_zero ?_
      unfold ahead at hleft hahead
      omega
  obtain ⟨hfound, htoken⟩ := g.iterate_turn (g.dependencyCount + 1) (.start origin token)
  cases hsearch : g.turn^[g.dependencyCount + 1] (.start origin token) with
  | mk waiting found token' =>
    simp only [hsearch] at hover hfound htoken
    subst hover hfound htoken
    rfl

/-! ## Each cell is found once -/

/-- A search in which what was found is exactly what was visited since the start. -/
structure Search.Fair (origin : CellId) (token : Token) (s : Search) : Prop where
  token_eq : s.token = (token.visit origin).visitAll s.found
  nodup : s.found.Nodup
  fresh : ∀ id ∈ s.found, ¬ (token.visit origin).hasVisited id

namespace Search.Fair

variable {origin : CellId} {token : Token} {s : Search}

/-- A search is fair at its start. -/
theorem start (origin : CellId) (token : Token) :
    (Search.start origin token).Fair origin token where
  token_eq := by simp only [Search.start, Token.visitAll, List.append_nil]
  nodup := List.nodup_nil
  fresh _ hid := absurd hid List.not_mem_nil

/-- A turn keeps a search fair. -/
theorem turn {s' : Search} (h : s.Fair origin token) (hturn : g.Turn s s') :
    s'.Fair origin token := by
  cases hturn with
  | idle | stop => exact ⟨h.token_eq, h.nodup, h.fresh⟩
  | @visit cell hops waiting found token' =>
    obtain ⟨htoken, hnodup, hfresh⟩ := h
    obtain rfl : token' = (token.visit origin).visitAll found := htoken
    have hnew : ∀ id ∈ g.unvisited ((token.visit origin).visitAll found) cell,
        ¬ (token.visit origin).hasVisited id ∧ id ∉ found := by
      intro id hid
      have hid := (mem_unvisited.mp hid).2
      rwa [Token.hasVisited_visitAll, not_or] at hid
    constructor
    · simp only [Token.visitAll, List.append_assoc]
    · refine hnodup.append (g.nodup_unvisited _ cell) fun id hold hid => ?_
      exact (hnew id hid).2 hold
    · intro id hid
      rcases List.mem_append.mp hid with hid | hid
      · exact hfresh id hid
      · exact (hnew id hid).1

/-- Every search is fair throughout. -/
theorem iterate (g : CellGraph) (origin : CellId) (token : Token) (n : Nat) :
    (g.turn^[n] (.start origin token)).Fair origin token := by
  induction n with
  | zero => exact start origin token
  | succ n ih =>
    rw [Function.iterate_succ_apply']
    exact ih.turn (g.turn_turn _)

end Search.Fair
end CellGraph
end GridAudit
