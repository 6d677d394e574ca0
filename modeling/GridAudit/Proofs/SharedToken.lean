import GridAudit.Proofs.ReferenceRelation
import GridAudit.Proofs.Schedule

/-!
# Schedules that share a token

Several cells may be scheduled in turn under one token. To the search from a later cell, the cells
visited before are closed: it goes on as if nothing had been visited in the graph without the
dependencies of those cells. So no cell is listed twice. But a cell that an earlier search reached
with its last hop is closed to a later search that could have gone on from there, and what lies
behind is listed by neither. Nothing is lost in this way when changes spread by one hop at most, or
when the limit cuts no search short.
-/

namespace GridAudit

namespace CellGraph

variable {g : CellGraph} {cells : List CellId} {origin : CellId} {token : Token}

/-! ## Closed cells -/

/-- The graph without the dependencies of some cells on others, so that no change reaches them. -/
def without (g : CellGraph) (cells : List CellId) : CellGraph :=
  { g with dependencies := g.dependencies.filter fun d => !cells.contains d.reader }

/-- Dependents are lost when they are closed. -/
theorem dependents_without (g : CellGraph) (cells : List CellId) (id : CellId) :
    (g.without cells).dependents id = (g.dependents id).filter fun d => !cells.contains d := by
  have hcount : (g.without cells).nodeCount = g.nodeCount := rfl
  unfold dependents within
  rw [hcount]
  split
  · refine CellId.ascending_eq ((CellId.pairwise_lt_ascending _).filter _) fun reader => ?_
    simp only [List.mem_filter, CellId.mem_ascending, mem_readersOf, without]
  · rfl

/-- A change reaches no more cells when some are closed. -/
theorem Reaches.of_without {id : CellId} {n : Nat} (h : (g.without cells).Reaches origin n id) :
    g.Reaches origin n id := by
  induction h with
  | start => exact .start
  | hop _ hid ih =>
    rw [dependents_without] at hid
    exact ih.hop (List.mem_filter.mp hid).1

/-- A change reaches the cells outside a set that holds the dependents of its members without
passing through it. -/
theorem Reaches.without (hclosed : ∀ cell ∈ cells, g.dependents cell ⊆ cells) {id : CellId}
    {n : Nat} (h : g.Reaches origin n id) (hid : id ∉ cells) :
    (g.without cells).Reaches origin n id := by
  induction h with
  | start => exact .start
  | hop _ hdependent ih =>
    have hcell := ih fun hcell => hid (hclosed _ hcell hdependent)
    refine hcell.hop ?_
    rw [dependents_without]
    exact List.mem_filter.mpr ⟨hdependent, by simpa using hid⟩

/-! ## A search among visited cells -/

/-- A search under a token that has visited some cells goes like one under a token that has visited
none. -/
structure Search.Resumes (visited : List CellId) (s fresh : Search) : Prop where
  waiting : s.waiting = fresh.waiting
  found : s.found = fresh.found
  limit : s.token.limit = fresh.token.limit
  token : ∀ id, s.token.hasVisited id ↔ id ∈ visited ∨ fresh.token.hasVisited id

namespace Search.Resumes

variable {s fresh : Search}

/-- Searches from one cell go alike at their start. -/
theorem start (origin : CellId) (token : Token) :
    (Search.start origin token).Resumes token.visited (.start origin (.new token.limit)) where
  waiting := rfl
  found := rfl
  limit := by simp only [Search.start, Token.limit_visit, Token.new]
  token id := by
    simp only [Search.start, Token.hasVisited_visit]
    simp [Token.hasVisited, Token.new]

/-- What is not visited yet is the same where the cells visited before are closed. -/
theorem unvisited_eq (h : s.Resumes cells fresh) (cell : CellId) :
    g.unvisited s.token cell = (g.without cells).unvisited fresh.token cell := by
  unfold unvisited
  rw [dependents_without, List.filter_filter]
  refine List.filter_congr fun id _ => ?_
  have htoken : s.token.hasVisited id = (cells.contains id || fresh.token.hasVisited id) := by
    rw [Bool.eq_iff_iff]
    simpa using h.token id
  rw [htoken, Bool.not_or, Bool.and_comm]

/-- A turn of both searches finds the same cells. -/
theorem turn (h : s.Resumes cells fresh) :
    (g.turn s).Resumes cells ((g.without cells).turn fresh) := by
  have hunvisited := h.unvisited_eq (g := g)
  obtain ⟨waiting, found, token⟩ := s
  obtain ⟨waiting', found', token'⟩ := fresh
  obtain ⟨rfl, rfl, hlimit, htoken⟩ := h
  change token.limit = token'.limit at hlimit
  cases waiting with
  | nil => exact ⟨rfl, rfl, hlimit, htoken⟩
  | cons first waiting =>
    simp only [CellGraph.turn, hlimit]
    split
    · exact ⟨rfl, rfl, hlimit, htoken⟩
    · simp only [hunvisited]
      refine ⟨rfl, rfl, hlimit, fun id => ?_⟩
      rw [Token.hasVisited_visitAll, Token.hasVisited_visitAll, ← or_assoc]
      exact or_congr_left (htoken id)

/-- The searches go alike throughout. -/
theorem iterate (g : CellGraph) (origin : CellId) (token : Token) (n : Nat) :
    (g.turn^[n] (.start origin token)).Resumes token.visited
      ((g.without token.visited).turn^[n] (.start origin (.new token.limit))) := by
  induction n with
  | zero => exact start origin token
  | succ n ih =>
    rw [Function.iterate_succ_apply', Function.iterate_succ_apply']
    exact ih.turn

end Search.Resumes

/-- A search that is over stays as it is. -/
theorem iterate_turn_nil (g : CellGraph) (found : List CellId) (token : Token) (n : Nat) :
    g.turn^[n] ⟨[], found, token⟩ = ⟨[], found, token⟩ :=
  Function.iterate_fixed rfl n

/-- A schedule under a token is one under a token that has visited nothing, with the cells visited
before closed. -/
theorem schedule_eq_without (g : CellGraph) (origin : CellId) (token : Token) :
    (g.schedule origin token).1 =
      ((g.without token.visited).schedule origin (.new token.limit)).1 := by
  have hresumes := Search.Resumes.iterate g origin token (g.dependencyCount + 1)
  -- The graph with closed cells has fewer dependencies, so the search there is over no later.
  obtain ⟨extra, hextra⟩ := Nat.exists_eq_add_of_le' (Nat.succ_le_succ
    (List.length_filter_le (fun d => !token.visited.contains d.reader) g.dependencies))
  have hcount : g.dependencyCount + 1 = extra + ((g.without token.visited).dependencyCount + 1) :=
    hextra
  rw [iterate_turn_start, hcount, Function.iterate_add_apply, iterate_turn_start,
    iterate_turn_nil] at hresumes
  exact hresumes.found

/-- Scheduling changes no limit. -/
theorem limit_schedule (g : CellGraph) (origin : CellId) (token : Token) :
    (g.schedule origin token).2.limit = token.limit := by
  obtain ⟨htoken, -, -⟩ := Search.Fair.iterate g origin token (g.dependencyCount + 1)
  rw [iterate_turn_start] at htoken
  have htoken : (g.schedule origin token).2 =
      (token.visit origin).visitAll (g.schedule origin token).1 := htoken
  rw [htoken, Token.visitAll, Token.limit_visit]

/-- A schedule lists the cells that its cell reaches within the limit where the cells visited before
are closed. -/
theorem mem_schedule_iff (g : CellGraph) (origin : CellId) (token : Token) (id : CellId) :
    id = origin ∨ id ∈ (g.schedule origin token).1 ↔
      ∃ n ≤ token.limit, (g.without token.visited).Reaches origin n id := by
  rw [schedule_eq_without, (breadthFirst_schedule _ origin token.limit).mem_iff]
  constructor
  · rintro (rfl | ⟨-, n, hdistance, -, hn⟩)
    · exact ⟨0, Nat.zero_le _, .start⟩
    · exact ⟨n, hn, hdistance.reaches⟩
  · rintro ⟨n, hn, hreaches⟩
    obtain ⟨m, hm, hdistance⟩ := hreaches.exists_distance
    refine or_iff_not_imp_left.mpr fun hne => ⟨hne, m, hdistance, ?_, Nat.le_trans hm hn⟩
    exact Nat.pos_of_ne_zero fun hzero => hne (hzero ▸ hdistance).eq_origin

/-! ## Schedules in turn -/

section InTurn

variable {origins before after : List CellId}

/-- Schedules in turn may be taken apart; the token goes on from the first part to the second. -/
theorem scheduleAll_append (g : CellGraph) (before after : List CellId) (token : Token) :
    g.scheduleAll (before ++ after) token =
      ((g.scheduleAll before token).1 ++ (g.scheduleAll after (g.scheduleAll before token).2).1,
        (g.scheduleAll after (g.scheduleAll before token).2).2) := by
  induction before generalizing token with
  | nil => rfl
  | cons origin rest ih => simp only [List.cons_append, scheduleAll, ih]

/-- After schedules in turn, the cells and those listed have been visited beside those before. -/
theorem hasVisited_scheduleAll (g : CellGraph) (origins : List CellId) (token : Token)
    (id : CellId) :
    (g.scheduleAll origins token).2.hasVisited id ↔
      token.hasVisited id ∨ id ∈ origins ∨ id ∈ (g.scheduleAll origins token).1.flatten := by
  induction origins generalizing token with
  | nil => simp [scheduleAll]
  | cons origin rest ih =>
    simp only [scheduleAll, ih, (g.scheduled_schedule origin token).visited id, List.mem_cons,
      List.flatten_cons, List.mem_append]
    tauto

/-- Schedules in turn list no cell twice, and none that was visited before. -/
theorem nodup_flatten_scheduleAll (g : CellGraph) (origins : List CellId) (token : Token) :
    (g.scheduleAll origins token).1.flatten.Nodup ∧
      ∀ id ∈ (g.scheduleAll origins token).1.flatten, ¬ token.hasVisited id := by
  induction origins generalizing token with
  | nil => simp [scheduleAll]
  | cons origin rest ih =>
    obtain ⟨-, hnodup, hfresh, hvisited⟩ := g.scheduled_schedule origin token
    obtain ⟨hrest, hnew⟩ := ih (g.schedule origin token).2
    simp only [hvisited, not_or] at hnew
    simp only [scheduleAll, List.flatten_cons]
    refine ⟨hnodup.append hrest fun id hid hmore => (hnew id hmore).2.2 hid, ?_⟩
    exact List.forall_mem_append.mpr
      ⟨fun id hid => (hfresh id hid).2, fun id hid => (hnew id hid).1⟩

/-- Schedules in turn list what each cell reaches within the limit where the cells visited before
its turn are closed. -/
theorem mem_flatten_scheduleAll_iff (g : CellGraph) (origins : List CellId) (token : Token)
    (id : CellId) :
    id ∈ origins ∨ id ∈ (g.scheduleAll origins token).1.flatten ↔
      ∃ before origin after, origins = before ++ origin :: after ∧ ∃ n ≤ token.limit,
        (g.without (g.scheduleAll before token).2.visited).Reaches origin n id := by
  induction origins generalizing token with
  | nil => simp [scheduleAll]
  | cons first rest ih =>
    have hsplit : id ∈ first :: rest ∨ id ∈ (g.scheduleAll (first :: rest) token).1.flatten ↔
        (id = first ∨ id ∈ (g.schedule first token).1) ∨
          (id ∈ rest ∨ id ∈ (g.scheduleAll rest (g.schedule first token).2).1.flatten) := by
      simp only [scheduleAll, List.mem_cons, List.flatten_cons, List.mem_append]
      tauto
    rw [hsplit, mem_schedule_iff, ih, limit_schedule]
    constructor
    · rintro (hfirst | ⟨before, origin, after, rfl, hreaches⟩)
      · exact ⟨[], first, rest, rfl, hfirst⟩
      · exact ⟨first :: before, origin, after, rfl, hreaches⟩
    · rintro ⟨before, origin, after, heq, hreaches⟩
      cases before with
      | nil =>
        obtain ⟨rfl, rfl⟩ := List.cons.inj heq
        exact .inl hreaches
      | cons _ before =>
        obtain ⟨rfl, rfl⟩ := List.cons.inj heq
        exact .inr ⟨before, origin, after, rfl, hreaches⟩

/-- A cell that was visited before the turn of another is among those scheduled or listed. -/
theorem mem_of_hasVisited_before {limit : Nat} {id : CellId}
    (h : (g.scheduleAll before (.new limit)).2.hasVisited id) :
    id ∈ before ++ after ∨ id ∈ (g.scheduleAll (before ++ after) (.new limit)).1.flatten := by
  rw [scheduleAll_append, List.flatten_append, List.mem_append, List.mem_append]
  rcases (g.hasVisited_scheduleAll before _ id).mp h with hnew | hbefore | hlisted
  · simp [Token.new, Token.hasVisited] at hnew
  · exact .inl (.inl hbefore)
  · exact .inr (.inl hlisted)

/-- A limit that cuts no change of a cell short: whatever such a change reaches at all, it reaches
within the limit. -/
def Spans (g : CellGraph) (limit : Nat) (origin : CellId) : Prop :=
  ∀ n id, g.Reaches origin n id → ∃ m ≤ limit, g.Reaches origin m id

/-- A schedule that the limit does not cut short leaves no visited cell with a dependent that was
not visited. -/
theorem closed_schedule (hspans : g.Spans token.limit origin)
    (hclosed : ∀ cell ∈ token.visited, g.dependents cell ⊆ token.visited) :
    ∀ cell ∈ (g.schedule origin token).2.visited,
      g.dependents cell ⊆ (g.schedule origin token).2.visited := by
  have hvisited (id : CellId) : id ∈ (g.schedule origin token).2.visited ↔
      id ∈ token.visited ∨ ∃ n ≤ token.limit, (g.without token.visited).Reaches origin n id := by
    rw [← mem_schedule_iff]
    simpa [Token.hasVisited] using (g.scheduled_schedule origin token).visited id
  intro cell hcell id hid
  rw [hvisited] at hcell ⊢
  rcases hcell with hcell | ⟨n, -, hreaches⟩
  · exact .inl (hclosed cell hcell hid)
  · refine or_iff_not_imp_left.mpr fun hnew => ?_
    obtain ⟨m, hm, hreaches⟩ := hspans _ _ (hreaches.of_without.hop hid)
    exact ⟨m, hm, hreaches.without hclosed hnew⟩

/-- Schedules in turn that the limit does not cut short leave no visited cell with a dependent that
was not visited. -/
theorem closed_scheduleAll (hspans : ∀ origin ∈ origins, g.Spans token.limit origin)
    (hclosed : ∀ cell ∈ token.visited, g.dependents cell ⊆ token.visited) :
    ∀ cell ∈ (g.scheduleAll origins token).2.visited,
      g.dependents cell ⊆ (g.scheduleAll origins token).2.visited := by
  induction origins generalizing token with
  | nil => exact hclosed
  | cons origin rest ih =>
    obtain ⟨horigin, hrest⟩ := List.forall_mem_cons.mp hspans
    rw [← g.limit_schedule origin token] at hrest
    exact ih hrest (closed_schedule horigin hclosed)

/-- What schedules of several cells in turn under one token of a limit list, when nothing was
visited before. -/
structure ScheduledInTurn (g : CellGraph) (limit : Nat) (origins : List CellId)
    (orders : List (List CellId)) : Prop where
  /-- No cell is listed twice, by one schedule or by two. -/
  nodup : orders.flatten.Nodup
  /-- The cells and those listed are what each cell reaches within the limit where the cells visited
  before its turn are closed. -/
  mem_iff : ∀ id, id ∈ origins ∨ id ∈ orders.flatten ↔
    ∃ before origin after, origins = before ++ origin :: after ∧ ∃ n ≤ limit,
      (g.without (g.scheduleAll before (.new limit)).2.visited).Reaches origin n id
  /-- All of them are within the limit of some cell. -/
  within : ∀ id, id ∈ origins ∨ id ∈ orders.flatten →
    ∃ origin ∈ origins, ∃ n ≤ limit, g.Reaches origin n id
  /-- They are all that is within the limit of some cell, when changes spread by one hop at most or
  the limit cuts none short. -/
  complete : (limit ≤ 1 ∨ ∀ origin ∈ origins, g.Spans limit origin) →
    ∀ origin ∈ origins, ∀ n ≤ limit, ∀ id, g.Reaches origin n id →
      id ∈ origins ∨ id ∈ orders.flatten

/-- Under a token that several cells share no cell is listed twice, and a cell within the limit of
one of them is listed unless cells visited before its turn stand in the way. -/
theorem scheduledInTurn_scheduleAll (g : CellGraph) (limit : Nat) (origins : List CellId) :
    g.ScheduledInTurn limit origins (g.scheduleAll origins (.new limit)).1 := by
  have hmem := g.mem_flatten_scheduleAll_iff origins (.new limit)
  constructor
  case nodup => exact (g.nodup_flatten_scheduleAll origins (.new limit)).1
  case mem_iff => exact hmem
  case within =>
    intro id hid
    obtain ⟨before, origin, after, rfl, n, hn, hreaches⟩ := (hmem id).mp hid
    exact ⟨origin, by simp, n, hn, hreaches.of_without⟩
  case complete =>
    rintro (hlimit | hspans) origin horigin n hn id hreaches
    · cases hreaches with
      | start => exact .inl horigin
      | @hop m cell _ hcell hdependent =>
        obtain rfl : m = 0 := by omega
        obtain rfl : cell = origin := by cases hcell; rfl
        obtain ⟨before, after, rfl⟩ := List.append_of_mem horigin
        by_cases hvisited : (g.scheduleAll before (.new limit)).2.hasVisited id
        · exact mem_of_hasVisited_before hvisited
        · refine (hmem id).mpr ⟨before, cell, after, rfl, 1, hn, Reaches.start.hop ?_⟩
          rw [dependents_without]
          exact List.mem_filter.mpr ⟨hdependent, by simpa [Token.hasVisited] using hvisited⟩
    · have hvisited (id : CellId) : id ∈ (g.scheduleAll origins (.new limit)).2.visited ↔
          id ∈ origins ∨ id ∈ (g.scheduleAll origins (.new limit)).1.flatten := by
        simpa [Token.hasVisited, Token.new] using g.hasVisited_scheduleAll origins (.new limit) id
      have hclosed : ∀ cell ∈ (g.scheduleAll origins (.new limit)).2.visited,
          g.dependents cell ⊆ (g.scheduleAll origins (.new limit)).2.visited :=
        closed_scheduleAll hspans fun _ hcell => absurd hcell List.not_mem_nil
      rw [← hvisited]
      clear hn
      induction hreaches with
      | start => exact (hvisited origin).mpr (.inl horigin)
      | hop _ hdependent ih => exact hclosed _ ih hdependent

end InTurn

/-- A sheet of one row in which each cell reads the one before it. -/
def rowTargets (_ column : Nat) : List (Nat × Nat) := if column = 0 then [] else [(0, column - 1)]

/-- A token shared by several cells may lose dependents. In a row of four cells, each of which reads
the one before it, a change of the first reaches the third with its second hop, and a change of the
second is not followed through it to the last one. -/
theorem not_complete_of_shared_token :
    ¬ ∀ (g : CellGraph) (limit : Nat) (origins : List CellId),
      (g.scheduleAll origins (.new limit)).1.flatten.Nodup ∧
        ∀ id, id ∈ origins ∨ id ∈ (g.scheduleAll origins (.new limit)).1.flatten ↔
          ∃ origin ∈ origins, ∃ n ≤ limit, g.Reaches origin n id := by
  intro h
  let g := build 1 4 rowTargets
  have hdependents {id : CellId} {sorted : List CellId} (hid : id.index < g.nodeCount)
      (hsorted : sorted.Pairwise (· < ·)) (hreaders : g.readersOf id = sorted) :
      g.dependents id = sorted := by
    rw [dependents, within, if_pos hid]
    exact CellId.ascending_eq hsorted fun _ => by rw [hreaders]
  have h0 : g.dependents 0 = [1] := hdependents (by decide) (by decide) (by decide)
  have h1 : g.dependents 1 = [2] := hdependents (by decide) (by decide) (by decide)
  have h2 : g.dependents 2 = [3] := hdependents (by decide) (by decide) (by decide)
  have hcount : g.dependencyCount = 3 := by decide
  have hlists : (g.scheduleAll [0, 1] (.new 2)).1 = [[1, 2], []] := by
    simp [scheduleAll, schedule, hcount, spread, Token.new, Token.visit, Token.hasVisited, h0, h1]
  have hnext : g.Reaches 1 1 2 := Reaches.start.hop (by simp [h1])
  have hreaches : g.Reaches 1 2 3 := hnext.hop (by simp [h2])
  have hlost := ((h g 2 [0, 1]).2 3).mpr ⟨1, by simp, 2, Nat.le_refl 2, hreaches⟩
  rw [hlists] at hlost
  exact absurd hlost (by decide)

end CellGraph

end GridAudit
