import GridAudit.Proofs.Search

/-!
# A schedule is bounded breadth-first reachability

The distance of a cell from another is the least number of hops from cells to their dependents. A
schedule under a token that has visited nothing holds exactly the cells at a distance from one to
the limit, each once and nearer ones first, and a smaller limit only cuts it short. What carries the
proof is that a search works off whole levels: as long as a cell waits, every cell at most as far
away has been visited.
-/

namespace GridAudit

namespace CellGraph

variable {g : CellGraph} {origin : CellId}

/-! ## Distances -/

/-- A cell is reached in a number of hops, each from a cell to one of its dependents. -/
inductive Reaches (g : CellGraph) (origin : CellId) : Nat → CellId → Prop
  | start : Reaches g origin 0 origin
  | hop {n : Nat} {cell id : CellId} (h : Reaches g origin n cell) (hid : id ∈ g.dependents cell) :
    Reaches g origin (n + 1) id

/-- The least number of hops in which a cell is reached. -/
structure Distance (g : CellGraph) (origin id : CellId) (n : Nat) : Prop where
  reaches : g.Reaches origin n id
  least : ∀ m, g.Reaches origin m id → n ≤ m

/-- A cell has one distance at most. -/
theorem Distance.unique {id : CellId} {m n : Nat} (hm : g.Distance origin id m)
    (hn : g.Distance origin id n) : m = n :=
  Nat.le_antisymm (hm.least n hn.reaches) (hn.least m hm.reaches)

/-- A cell is at no distance from itself. -/
theorem distance_self (g : CellGraph) (origin : CellId) : g.Distance origin origin 0 :=
  ⟨.start, fun _ _ => Nat.zero_le _⟩

/-- Only the cell itself is at no distance. -/
theorem Distance.eq_origin {id : CellId} (h : g.Distance origin id 0) : id = origin := by
  cases h.reaches
  rfl

/-- A cell further away is a dependent of one that is one hop nearer. -/
theorem Distance.exists_pred {id : CellId} {n : Nat} (h : g.Distance origin id (n + 1)) :
    ∃ cell, g.Distance origin cell n ∧ id ∈ g.dependents cell := by
  cases h.reaches with
  | @hop _ cell _ hcell hid =>
    refine ⟨cell, ⟨hcell, fun m hm => ?_⟩, hid⟩
    exact Nat.le_of_succ_le_succ (h.least (m + 1) (hm.hop hid))

/-- A cell that is reached at all has a distance. -/
theorem Reaches.exists_distance {id : CellId} {n : Nat} (h : g.Reaches origin n id) :
    ∃ m ≤ n, g.Distance origin id m := by
  induction n using Nat.strong_induction_on with
  | _ n ih =>
    by_cases hleast : ∀ m, g.Reaches origin m id → n ≤ m
    · exact ⟨n, Nat.le_refl n, h, hleast⟩
    · push Not at hleast
      obtain ⟨m, hm, hlt⟩ := hleast
      obtain ⟨k, hk, hdistance⟩ := ih m hlt hm
      exact ⟨k, Nat.le_trans hk (Nat.le_of_lt hlt), hdistance⟩

/-! ## Searches work off levels -/

/-- How far a search has come that had visited nothing before its start. The cells done and those
that wait are all that was visited, in the order of their distances; the dependents of cells done
have been visited too, and the cells that wait are on two levels at most. -/
structure Search.Levelled (g : CellGraph) (origin : CellId) (done : List (CellId × Nat))
    (s : Search) : Prop where
  cells : (done ++ s.waiting).map Prod.fst = origin :: s.found
  visited : ∀ id, s.token.hasVisited id ↔ id ∈ origin :: s.found
  distances : ∀ p ∈ done ++ s.waiting, g.Distance origin p.1 p.2
  within : ∀ p ∈ done ++ s.waiting, p.2 ≤ s.token.limit
  sorted : (done ++ s.waiting).Pairwise fun p q => p.2 ≤ q.2
  levels : ∀ p ∈ s.waiting, ∀ q ∈ s.waiting, q.2 ≤ p.2 + 1
  closed : ∀ p ∈ done, p.2 < s.token.limit → g.dependents p.1 ⊆ origin :: s.found

namespace Search.Levelled

variable {done : List (CellId × Nat)} {s s' : Search}

/-- A search has come nowhere at its start. -/
theorem start (g : CellGraph) (origin : CellId) (limit : Nat) :
    (Search.start origin (.new limit)).Levelled g origin [] where
  cells := rfl
  visited id := by
    rw [Search.start, Token.hasVisited_visit]
    simp [Token.new, Token.hasVisited]
  distances p hp := by
    obtain rfl := List.mem_singleton.mp hp
    exact g.distance_self origin
  within p hp := by
    obtain rfl := List.mem_singleton.mp hp
    exact Nat.zero_le _
  sorted := List.pairwise_singleton _ _
  levels p hp q hq := by
    obtain rfl := List.mem_singleton.mp hq
    exact Nat.zero_le _
  closed p hp := absurd hp List.not_mem_nil

/-- As long as no nearer cells than some distance wait, all cells up to that distance have been
visited. -/
theorem mem_of_distance (h : s.Levelled g origin done) {bound : Nat}
    (hwaiting : ∀ p ∈ s.waiting, bound ≤ p.2) (hbound : bound ≤ s.token.limit) {id : CellId}
    {n : Nat} (hdistance : g.Distance origin id n) (hn : n ≤ bound) : id ∈ origin :: s.found := by
  induction n generalizing id with
  | zero => exact hdistance.eq_origin ▸ List.mem_cons_self
  | succ n ih =>
    obtain ⟨cell, hcell, hid⟩ := hdistance.exists_pred
    have hseen := ih hcell (Nat.le_of_lt hn)
    rw [← h.cells] at hseen
    obtain ⟨⟨_, m⟩, hp, rfl⟩ := List.mem_map.mp hseen
    obtain rfl := (h.distances _ hp).unique hcell
    -- The cell before is nearer than all that wait, so it is done.
    rcases List.mem_append.mp hp with hdone | hp
    · exact h.closed _ hdone (Nat.lt_of_lt_of_le hn hbound) hid
    · exact absurd (hwaiting _ hp) (Nat.not_le.mpr hn)

section First

variable {cell : CellId} {hops : Nat} {waiting : List (CellId × Nat)} {found : List CellId}
  {token : Token}

/-- No cell that waits is nearer than the first. -/
theorem le_of_mem_waiting
    (h : Search.Levelled g origin done ⟨(cell, hops) :: waiting, found, token⟩) :
    ∀ p ∈ (cell, hops) :: waiting, hops ≤ p.2 := by
  have hsorted := (List.pairwise_append.mp h.sorted).2.1
  exact List.forall_mem_cons.mpr ⟨Nat.le_refl _, fun p hp => List.rel_of_pairwise_cons hsorted hp⟩

/-- No cell visited is more than one hop further away than the first that waits. -/
theorem le_succ_of_mem
    (h : Search.Levelled g origin done ⟨(cell, hops) :: waiting, found, token⟩) :
    ∀ p ∈ done ++ (cell, hops) :: waiting, p.2 ≤ hops + 1 := by
  intro p hp
  rcases List.mem_append.mp hp with hp | hp
  · exact Nat.le_succ_of_le ((List.pairwise_append.mp h.sorted).2.2 p hp _ List.mem_cons_self)
  · exact h.levels _ List.mem_cons_self p hp

/-- The unvisited dependents of the first cell that waits are one hop further away. -/
theorem distance_of_mem_unvisited
    (h : Search.Levelled g origin done ⟨(cell, hops) :: waiting, found, token⟩)
    (hlimit : hops ≤ token.limit) {id : CellId} (hid : id ∈ g.unvisited token cell) :
    g.Distance origin id (hops + 1) := by
  obtain ⟨hdependent, hnew⟩ := mem_unvisited.mp hid
  have hcell : (cell, hops) ∈ done ++ (cell, hops) :: waiting :=
    List.mem_append_right _ List.mem_cons_self
  refine ⟨(h.distances _ hcell).reaches.hop hdependent, fun m hm => ?_⟩
  -- Were it nearer, it would lie on a level that was worked off, and have been visited.
  by_contra hlt
  obtain ⟨n, hn, hdistance⟩ := hm.exists_distance
  exact hnew ((h.visited id).mpr
    (h.mem_of_distance h.le_of_mem_waiting hlimit hdistance (by omega)))

/-- A first cell that has used up its hops is done. -/
theorem stop (h : Search.Levelled g origin done ⟨(cell, hops) :: waiting, found, token⟩)
    (hlimit : token.limit ≤ hops) :
    Search.Levelled g origin (done ++ [(cell, hops)]) ⟨waiting, found, token⟩ := by
  have hmoved : done ++ [(cell, hops)] ++ waiting = done ++ (cell, hops) :: waiting :=
    List.append_cons .. |>.symm
  constructor
  case cells => exact hmoved ▸ h.cells
  case visited => exact h.visited
  case distances => exact hmoved ▸ h.distances
  case within => exact hmoved ▸ h.within
  case sorted => exact hmoved ▸ h.sorted
  case levels =>
    exact fun p hp q hq => h.levels p (List.mem_cons_of_mem _ hp) q (List.mem_cons_of_mem _ hq)
  case closed =>
    intro p hp hlt
    rcases List.mem_append.mp hp with hp | hp
    · exact h.closed p hp hlt
    · obtain rfl := List.mem_singleton.mp hp
      exact absurd hlimit (Nat.not_le.mpr hlt)

/-- A first cell is done once its unvisited dependents wait. -/
theorem visit (h : Search.Levelled g origin done ⟨(cell, hops) :: waiting, found, token⟩)
    (hlimit : hops < token.limit) :
    Search.Levelled g origin (done ++ [(cell, hops)])
      ⟨waiting ++ (g.unvisited token cell).map fun id => (id, hops + 1),
        found ++ g.unvisited token cell, token.visitAll (g.unvisited token cell)⟩ := by
  let fresh := (g.unvisited token cell).map fun id => (id, hops + 1)
  have hfresh : ∀ p ∈ fresh, p.2 = hops + 1 ∧ g.Distance origin p.1 p.2 := by
    intro p hp
    obtain ⟨id, hid, rfl⟩ := List.mem_map.mp hp
    exact ⟨rfl, h.distance_of_mem_unvisited (Nat.le_of_lt hlimit) hid⟩
  have hmoved : done ++ [(cell, hops)] ++ (waiting ++ fresh) =
      (done ++ (cell, hops) :: waiting) ++ fresh := by simp
  have hseen {id : CellId} : id ∈ origin :: (found ++ g.unvisited token cell) ↔
      id ∈ origin :: found ∨ id ∈ g.unvisited token cell := by
    rw [← List.cons_append, List.mem_append]
  constructor
  case cells =>
    rw [hmoved, List.map_append, h.cells, List.map_map]
    simp [Function.comp_def]
  case visited =>
    intro id
    rw [Token.hasVisited_visitAll, hseen]
    exact or_congr_left (h.visited id)
  case distances =>
    rw [hmoved]
    exact List.forall_mem_append.mpr ⟨h.distances, fun p hp => (hfresh p hp).2⟩
  case within =>
    rw [hmoved]
    refine List.forall_mem_append.mpr ⟨h.within, fun p hp => ?_⟩
    rw [(hfresh p hp).1]
    exact hlimit
  case sorted =>
    rw [hmoved]
    refine List.pairwise_append.mpr ⟨h.sorted, ?_, fun p hp q hq => ?_⟩
    · exact List.pairwise_map.mpr (List.pairwise_of_forall fun _ _ => Nat.le_refl _)
    · exact (hfresh q hq).1 ▸ h.le_succ_of_mem p hp
  case levels =>
    have hleast : ∀ p ∈ waiting ++ fresh, hops ≤ p.2 := List.forall_mem_append.mpr
      ⟨fun p hp => h.le_of_mem_waiting p (List.mem_cons_of_mem _ hp),
        fun p hp => (hfresh p hp).1 ▸ Nat.le_succ hops⟩
    have hgreatest : ∀ q ∈ waiting ++ fresh, q.2 ≤ hops + 1 := List.forall_mem_append.mpr
      ⟨fun q hq => h.le_succ_of_mem q (List.mem_append_right _ (List.mem_cons_of_mem _ hq)),
        fun q hq => Nat.le_of_eq (hfresh q hq).1⟩
    exact fun p hp q hq => Nat.le_trans (hgreatest q hq) (Nat.succ_le_succ (hleast p hp))
  case closed =>
    intro p hp hlt id hid
    rw [hseen]
    rcases List.mem_append.mp hp with hp | hp
    · exact .inl (h.closed p hp hlt hid)
    · obtain rfl := List.mem_singleton.mp hp
      by_cases hvisited : token.hasVisited id
      · exact .inl ((h.visited id).mp hvisited)
      · exact .inr (mem_unvisited.mpr ⟨hid, hvisited⟩)

end First

/-- A turn moves the first cell that waits to those that are done. -/
theorem turn (h : s.Levelled g origin done) (hturn : g.Turn s s') :
    ∃ done', s'.Levelled g origin done' := by
  cases hturn with
  | idle => exact ⟨done, h⟩
  | stop hlimit => exact ⟨_, h.stop hlimit⟩
  | visit hlimit => exact ⟨_, h.visit hlimit⟩

/-- Every search works off levels throughout. -/
theorem iterate (g : CellGraph) (origin : CellId) (limit n : Nat) :
    ∃ done, (g.turn^[n] (.start origin (.new limit))).Levelled g origin done := by
  induction n with
  | zero => exact ⟨[], start g origin limit⟩
  | succ n ih =>
    rw [Function.iterate_succ_apply']
    obtain ⟨done, hdone⟩ := ih
    exact hdone.turn (g.turn_turn _)

end Search.Levelled

/-! ## A smaller limit -/

/-- A search that goes like another with no smaller limit, or has come to its end early, having
found what comes first there. -/
inductive Search.Behind : Search → Search → Prop
  | level {waiting : List (CellId × Nat)} {found visited : List CellId} {limit limit' : Nat}
      (h : limit ≤ limit') :
    Behind ⟨waiting, found, ⟨visited, limit⟩⟩ ⟨waiting, found, ⟨visited, limit'⟩⟩
  | ended {s t : Search} (hwaiting : ∀ p ∈ s.waiting, s.token.limit ≤ p.2)
      (hfound : s.found <+: t.found) : Behind s t

/-- A turn loses nothing that was found. -/
theorem Turn.found_prefix {s s' : Search} (h : g.Turn s s') : s.found <+: s'.found := by
  cases h with
  | idle | stop => exact List.prefix_rfl
  | visit => exact List.prefix_append ..

/-- A search all of whose cells have used up their hops finds nothing more. -/
theorem Turn.eq_of_forall_limit_le {s s' : Search} (h : g.Turn s s')
    (hwaiting : ∀ p ∈ s.waiting, s.token.limit ≤ p.2) :
    (∀ p ∈ s'.waiting, s'.token.limit ≤ p.2) ∧ s'.found = s.found := by
  cases h with
  | idle => exact ⟨hwaiting, rfl⟩
  | stop => exact ⟨fun p hp => hwaiting p (List.mem_cons_of_mem _ hp), rfl⟩
  | visit hlimit => exact absurd (hwaiting _ List.mem_cons_self) (Nat.not_le.mpr hlimit)

/-- Turns of both searches keep the one with the smaller limit behind. -/
theorem Search.Behind.turn {done : List (CellId × Nat)} {s s' t t' : Search} (h : s.Behind t)
    (hlevelled : s.Levelled g origin done) (hs : g.Turn s s') (ht : g.Turn t t') :
    s'.Behind t' := by
  cases h with
  | ended hwaiting hfound =>
    obtain ⟨hwaiting', heq⟩ := hs.eq_of_forall_limit_le hwaiting
    exact .ended hwaiting' (heq ▸ hfound.trans ht.found_prefix)
  | @level waiting found visited limit limit' hlimit =>
    cases hs with
    | idle =>
      cases ht
      exact .level hlimit
    | @stop cell hops waiting _ _ hstop =>
      -- The first cell is the nearest, so all that wait have used up their hops.
      refine .ended (fun p hp => ?_) ht.found_prefix
      exact Nat.le_trans hstop (hlevelled.le_of_mem_waiting p (List.mem_cons_of_mem _ hp))
    | @visit cell hops waiting _ _ hvisit =>
      cases ht with
      | stop hstop => exact absurd hstop (Nat.not_le.mpr (Nat.lt_of_lt_of_le hvisit hlimit))
      | visit => exact .level hlimit

/-- A search that is behind another has found what comes first there. -/
theorem Search.Behind.found_prefix {s t : Search} (h : s.Behind t) : s.found <+: t.found := by
  cases h with
  | level => exact List.prefix_rfl
  | ended _ hfound => exact hfound

/-- Searches from a cell under two limits stay one behind the other. -/
theorem Search.Behind.iterate (g : CellGraph) (origin : CellId) {limit limit' : Nat}
    (hlimit : limit ≤ limit') (n : Nat) :
    (g.turn^[n] (.start origin (.new limit))).Behind
      (g.turn^[n] (.start origin (.new limit'))) := by
  induction n with
  | zero => exact .level hlimit
  | succ n ih =>
    rw [Function.iterate_succ_apply', Function.iterate_succ_apply']
    obtain ⟨done, hdone⟩ := Search.Levelled.iterate g origin limit n
    exact ih.turn hdone (g.turn_turn _) (g.turn_turn _)

/-- A smaller limit cuts a schedule short. -/
theorem schedule_prefix (g : CellGraph) (origin : CellId) {limit limit' : Nat}
    (hlimit : limit ≤ limit') :
    (g.schedule origin (.new limit)).1 <+: (g.schedule origin (.new limit')).1 := by
  have hbehind := Search.Behind.iterate g origin hlimit (g.dependencyCount + 1)
  simp only [iterate_turn_start] at hbehind
  exact hbehind.found_prefix

/-! ## Schedules -/

/-- What a schedule of a cell under any token is, of which cells, and which token it leaves. -/
structure Scheduled (g : CellGraph) (origin : CellId) (token : Token) (order : List CellId)
    (token' : Token) : Prop where
  /-- The search for it stops, with no cell left that waits. -/
  stops : ∃ n ≤ g.dependencyCount + 1,
    g.turn^[n] (.start origin token) = ⟨[], order, token'⟩
  /-- No cell is listed twice. -/
  nodup : order.Nodup
  /-- Neither the cell itself is listed nor any that was visited before. -/
  fresh : ∀ id ∈ order, id ≠ origin ∧ ¬ token.hasVisited id
  /-- Visited are then the cells visited before, the cell itself and those listed. -/
  visited : ∀ id, token'.hasVisited id ↔ token.hasVisited id ∨ id = origin ∨ id ∈ order

/-- What a schedule of a cell under a limit is when nothing was visited before. -/
structure BreadthFirst (g : CellGraph) (origin : CellId) (limit : Nat) (order : List CellId) :
    Prop where
  /-- The cells listed are the others at a distance within the limit. -/
  mem_iff : ∀ id, id ∈ order ↔ id ≠ origin ∧ ∃ n, g.Distance origin id n ∧ 1 ≤ n ∧ n ≤ limit
  /-- No cell is listed twice. -/
  nodup : order.Nodup
  /-- Nearer cells come first. -/
  sorted : order.Pairwise fun a b => ∀ m n, g.Distance origin a m → g.Distance origin b n → m ≤ n

/-- The search for a schedule stops, finds each cell once and marks what it finds. -/
theorem scheduled_schedule (g : CellGraph) (origin : CellId) (token : Token) :
    g.Scheduled origin token (g.schedule origin token).1 (g.schedule origin token).2 := by
  have hstops := g.iterate_turn_start origin token
  have hfair := Search.Fair.iterate g origin token (g.dependencyCount + 1)
  rw [hstops] at hfair
  obtain ⟨htoken, hnodup, hfresh⟩ := hfair
  refine ⟨⟨_, Nat.le_refl _, hstops⟩, hnodup, fun id hid => ?_, fun id => ?_⟩
  · have hnew := hfresh id hid
    rw [Token.hasVisited_visit, not_or] at hnew
    exact ⟨hnew.2, hnew.1⟩
  · have htoken : (g.schedule origin token).2 =
        (token.visit origin).visitAll (g.schedule origin token).1 := htoken
    rw [htoken, Token.hasVisited_visitAll, Token.hasVisited_visit, or_assoc]

/-- When nothing was visited before, a schedule is bounded breadth-first reachability. -/
theorem breadthFirst_schedule (g : CellGraph) (origin : CellId) (limit : Nat) :
    g.BreadthFirst origin limit (g.schedule origin (.new limit)).1 := by
  have hscheduled := g.scheduled_schedule origin (.new limit)
  obtain ⟨done, hdone⟩ := Search.Levelled.iterate g origin limit (g.dependencyCount + 1)
  obtain ⟨htoken, -, -⟩ := Search.Fair.iterate g origin (.new limit) (g.dependencyCount + 1)
  rw [iterate_turn_start] at hdone htoken
  have hlimit : (g.schedule origin (.new limit)).2.limit = limit := by
    have htoken : (g.schedule origin (.new limit)).2 =
        ((Token.new limit).visit origin).visitAll (g.schedule origin (.new limit)).1 := htoken
    rw [htoken, Token.visitAll, Token.limit_visit, Token.new]
  have hcells := hdone.cells
  have hsorted := hdone.sorted
  have hdistances := hdone.distances
  have hwithin := hdone.within
  simp only [List.append_nil, hlimit] at hcells hsorted hdistances hwithin
  constructor
  case mem_iff =>
    intro id
    constructor
    · intro hid
      have hne := (hscheduled.fresh id hid).1
      obtain ⟨⟨_, n⟩, hp, rfl⟩ := List.mem_map.mp (hcells ▸ List.mem_cons_of_mem origin hid)
      refine ⟨hne, n, hdistances _ hp, Nat.pos_of_ne_zero fun hzero => hne ?_, hwithin _ hp⟩
      exact (hzero ▸ hdistances _ hp : g.Distance origin _ 0).eq_origin
    · rintro ⟨hne, n, hdistance, -, hn⟩
      have hwaiting : ∀ p ∈ ([] : List (CellId × Nat)), limit ≤ p.2 :=
        fun p hp => absurd hp List.not_mem_nil
      have hseen := hdone.mem_of_distance hwaiting (Nat.le_of_eq hlimit.symm) hdistance hn
      exact (List.mem_cons.mp hseen).resolve_left hne
  case nodup => exact hscheduled.nodup
  case sorted =>
    have hpairs : (done.map Prod.fst).Pairwise fun a b =>
        ∀ m n, g.Distance origin a m → g.Distance origin b n → m ≤ n := by
      refine List.pairwise_map.mpr (hsorted.imp_of_mem fun {p q} hp hq hle m n hm hn => ?_)
      rw [hm.unique (hdistances p hp), hn.unique (hdistances q hq)]
      exact hle
    rw [hcells] at hpairs
    exact hpairs.of_cons

/-- A schedule is bounded breadth-first reachability, and a smaller limit cuts it short. -/
theorem scheduled_and_breadthFirst_schedule (g : CellGraph) (origin : CellId) :
    (∀ token, g.Scheduled origin token (g.schedule origin token).1 (g.schedule origin token).2) ∧
      ∀ limit, g.BreadthFirst origin limit (g.schedule origin (.new limit)).1 ∧
        ∀ extra, (g.schedule origin (.new limit)).1 <+:
          (g.schedule origin (.new (limit + extra))).1 := by
  refine ⟨g.scheduled_schedule origin, fun limit => ⟨g.breadthFirst_schedule origin limit, ?_⟩⟩
  intro extra
  exact g.schedule_prefix origin (Nat.le_add_right limit extra)

end CellGraph
end GridAudit
