import GridAudit.Proofs.Linked
import GridAudit.Proofs.References
import GridAudit.Workbench

/-!
# Optimization changes no answer

A run is a list of requests to a workbench, each with the values variables have then. Whether trees
are optimized may be set and chosen anew at each request, so that any rules may be kept when the
next one comes. Along a run all trees stay linked and all kept rules sound; hence every answer, a
failure or what is built, is that of the run in which nothing is ever optimized.
-/

namespace GridAudit

namespace Workbench

/-! ## Runs -/

/-- A request to a workbench; the flags say whether trees are optimized. -/
inductive Request where
  | load (text : String)
  | define (d : FactoryDefinition)
  | register (handle : Nat)
  | keepNode (d : NodeDefinition)
  | setOptimize (optimize : Bool)
  | instantiate (name : String) (arguments : List Argument)
  | instantiateDefinition (d : NodeDefinition)
  | buildRegistered (name : String) (optimize : Bool) (arguments : List Argument)
  | buildPending (handle : Nat) (optimize : Bool) (arguments : List Argument)
  | evaluate (handle : Nat) (optimize : Bool) (arguments : List Argument)

/-- What a request is answered. -/
inductive Answer where
  /-- There is nothing to tell. -/
  | done
  /-- There is nothing of the number. -/
  | missing
  /-- The factories registered, and the failure. -/
  | loaded (names : List String) (failure : Option RegistryError)
  /-- The number of what was put down. -/
  | handle (result : Except RegistryError Nat)
  /-- The name of the factory that was registered. -/
  | registered (result : Except RegistryError String)
  /-- The rule built by name or definition. -/
  | rule (result : Except RegistryError Instance)
  /-- The rule built by a factory. -/
  | built (result : Except InstantiationError Instance)
  /-- What a node yields. -/
  | yielded (result : Except InstantiationError (List Argument))

/-- The outcome with the answer as one of the answers to requests. -/
def Outcome.told {α : Type} (o : Outcome α) (tell : α → Answer) : Outcome Answer :=
  ⟨o.bench, tell o.answer⟩

/-- The outcome of a request. -/
def serve (w : Workbench) (vars : Variables) : Request → Outcome Answer
  | .load text => (w.load text).told fun loaded => .loaded loaded.1 loaded.2
  | .define d => (w.define d).told .handle
  | .register handle => match w.pending? handle with
    | some f => (w.register handle f).told .registered
    | none => ⟨w, .missing⟩
  | .keepNode d => (w.keepNode d).told .handle
  | .setOptimize optimize => ⟨w.setOptimize optimize, .done⟩
  | .instantiate name arguments => (w.instantiate vars name arguments).told .rule
  | .instantiateDefinition d => (w.instantiateDefinition vars d).told .rule
  | .buildRegistered name optimize arguments =>
    (w.buildRegistered vars name optimize arguments).told .rule
  | .buildPending handle optimize arguments => match w.pending? handle with
    | some f => (w.buildPending vars handle f optimize arguments).told .built
    | none => ⟨w, .missing⟩
  | .evaluate handle optimize arguments => match w.node? handle with
    | some n => (w.evaluate vars handle n optimize arguments).told .yielded
    | none => ⟨w, .missing⟩

/-- The answers to the requests of a run, each with the values of variables. -/
def answers (w : Workbench) : List (Variables × Request) → List Answer
  | [] => []
  | (vars, request) :: rest =>
    let outcome := w.serve vars request
    outcome.answer :: outcome.bench.answers rest

/-- The workbench that a run leaves. -/
def after (w : Workbench) : List (Variables × Request) → Workbench
  | [] => w
  | (vars, request) :: rest => (w.serve vars request).bench.after rest

/-- The request without optimization. -/
def Request.plain : Request → Request
  | .setOptimize _ => .setOptimize false
  | .buildRegistered name _ arguments => .buildRegistered name false arguments
  | .buildPending handle _ arguments => .buildPending handle false arguments
  | .evaluate handle _ arguments => .evaluate handle false arguments
  | request => request

/-- The workbench without optimization and kept rules. -/
def plain (w : Workbench) : Workbench := { w with registry := w.registry.plain, folds := .empty }

/-! ## Sound workbenches -/

/-- The trees on a workbench. -/
def trees (w : Workbench) : Trees
  | .registered name => (w.registry.factory? name).bind FactoryOf.tree?
  | .pending handle => (w.pending? handle).bind FactoryOf.tree?
  | .node handle => w.node? handle

/-- All trees on a workbench are linked, and the rules kept in them are sound. -/
structure Sound (w : Workbench) : Prop where
  registry : w.registry.Linked
  pending : ∀ handle f, w.pending? handle = some f → f.Linked w.registry
  nodes : ∀ handle n, w.node? handle = some n → n.Linked w.registry
  folds : w.folds.Sound w.registry.natives w.trees

namespace Sound

variable {w : Workbench}

/-- Registered factories have their trees under their names. -/
theorem shared (hw : w.Sound) : w.trees.Shared w.registry := by
  intro f hf root hroot
  refine ⟨?_, hw.registry f.name f hf root hroot⟩
  simp only [trees, hf, Option.bind_some, hroot]

/-- A run of an evaluation on sound rules has its plain outcome and leaves the workbench sound. -/
theorem run (hw : w.Sound) {α : Type} {x : Folding α} {result : Except InstantiationError α}
    (hx : Folding.Agrees (Folds.Sound w.registry.natives w.trees) x result) :
    (w.run x).answer = result ∧ (w.run x).bench.Sound := by
  obtain ⟨hanswer, hfolds⟩ := hx w.folds hw.folds
  exact ⟨hanswer, hw.registry, hw.pending, hw.nodes, hfolds⟩

/-- A node that was put down yields what it yields plainly. -/
theorem evaluate (hw : w.Sound) {handle : Nat} {n : Node} (hn : w.node? handle = some n)
    (vars : Variables) (optimize : Bool) (arguments : List Argument) :
    (w.evaluate vars handle n optimize arguments).answer =
        n.evaluate (w.registry.environment vars) false arguments ∧
      (w.evaluate vars handle n optimize arguments).bench.Sound := by
  have hplace : w.trees.node? (.root (.node handle)) = some n := by
    simp only [Trees.node?, Place.root, trees, hn, Option.bind_some, Node.at?]
  exact hw.run (Node.evaluateKeeping_agrees hw.shared n hplace (hw.nodes handle n hn) arguments)

/-- A factory on the workbench builds what it builds plainly. -/
theorem build (hw : w.Sound) {owner : TreeOwner} {f : Factory}
    (hown : w.trees.Own w.registry owner f) (vars : Variables) (optimize : Bool)
    (arguments : List Argument) :
    (w.build vars owner f optimize arguments).answer =
        f.instantiate (w.registry.environment vars) false arguments ∧
      (w.build vars owner f optimize arguments).bench.Sound :=
  hw.run (Node.instantiateKeeping_agrees hw.shared f hown arguments)

end Sound

/-- Kept rules stay sound when the trees they are kept in stay, or they move with their tree to
another owner. -/
theorem Sound.folds_of_kept {w w' : Workbench} (hw : w.Sound)
    (hnatives : w'.registry.natives = w.registry.natives)
    (hkept : ∀ k' ∈ w'.folds.kept, ∃ k ∈ w.folds.kept, k'.2 = k.2 ∧ k'.1.path = k.1.path ∧
      ∀ root, w.trees k.1.owner = some root → w'.trees k'.1.owner = some root) :
    w'.folds.Sound w'.registry.natives w'.trees := by
  intro k' hk'
  obtain ⟨k, hk, hrule, hpath, htrees⟩ := hkept k' hk'
  obtain ⟨n, hn, halways⟩ := hw.folds k hk
  obtain ⟨root, hroot, hat⟩ := Option.bind_eq_some_iff.mp hn
  rw [hrule, hnatives]
  refine ⟨n, Option.bind_eq_some_iff.mpr ⟨root, htrees root hroot, ?_⟩, halways⟩
  rwa [hpath]

/-- Kept rules stay sound when every tree stays. -/
theorem Sound.folds_of_trees {w w' : Workbench} (hw : w.Sound)
    (hnatives : w'.registry.natives = w.registry.natives) (hfolds : w'.folds = w.folds)
    (htrees : ∀ owner root, w.trees owner = some root → w'.trees owner = some root) :
    w'.folds.Sound w'.registry.natives w'.trees := by
  refine hw.folds_of_kept hnatives fun k hk => ?_
  rw [hfolds] at hk
  exact ⟨k, hk, rfl, rfl, htrees k.1.owner⟩

section Changes

variable {w : Workbench}

/-- A workbench stays sound while its registry grows. -/
theorem Sound.grow (hw : w.Sound) {r : Registry} (hr : w.registry.Extends r) (hlinked : r.Linked) :
    ({ w with registry := r } : Workbench).Sound where
  registry := hlinked
  pending handle f hf := (hw.pending handle f hf).mono hr
  nodes handle n hn := (hw.nodes handle n hn).mono hr
  folds := by
    refine hw.folds_of_trees hr.natives rfl fun owner root hroot => ?_
    cases owner with
    | registered name =>
      obtain ⟨f, hf, htree⟩ := Option.bind_eq_some_iff.mp hroot
      exact Option.bind_eq_some_iff.mpr ⟨f, hr.factory? name f hf, htree⟩
    | pending | node => exact hroot

/-- What is found when one more place is taken. -/
theorem getElem?_concat {α : Type} (as : List α) (a : α) (i : Nat) :
    (as ++ [a])[i]? = if i = as.length then some a else as[i]? := by
  rw [List.getElem?_append]
  rcases Nat.lt_trichotomy i as.length with h | rfl | h
  · simp [h, Nat.ne_of_lt h]
  · simp
  · have hlast : [a][i - as.length]? = none :=
      List.getElem?_eq_none (by rw [List.length_singleton]; omega)
    simp [Nat.lt_asymm h, Nat.ne_of_gt h, hlast]

/-- A workbench stays sound when a linked factory is put down. -/
theorem Sound.putDown (hw : w.Sound) {f : Factory} (hf : f.Linked w.registry) :
    ({ w with pending := w.pending ++ [some f] } : Workbench).Sound where
  registry := hw.registry
  pending handle g hg := by
    simp only [pending?, getElem?_concat] at hg
    split at hg
    · obtain rfl := Option.some.inj hg
      exact hf
    · exact hw.pending handle g hg
  nodes := hw.nodes
  folds := by
    refine hw.folds_of_trees rfl rfl fun owner root hroot => ?_
    cases owner with
    | registered | node => exact hroot
    | pending handle =>
      have hlt : handle < w.pending.length := by
        refine Nat.lt_of_not_le fun h => ?_
        have hnone : w.pending[handle]? = none := List.getElem?_eq_none h
        simp [trees, pending?, hnone] at hroot
      simp only [trees, pending?, getElem?_concat, Nat.ne_of_lt hlt, ↓reduceIte]
      exact hroot

/-- A workbench stays sound when a linked node is put down. -/
theorem Sound.putNode (hw : w.Sound) {n : Node} (hn : n.Linked w.registry) :
    ({ w with nodes := w.nodes ++ [n] } : Workbench).Sound where
  registry := hw.registry
  pending := hw.pending
  nodes handle m hm := by
    simp only [node?, getElem?_concat] at hm
    split at hm
    · obtain rfl := Option.some.inj hm
      exact hn
    · exact hw.nodes handle m hm
  folds := by
    refine hw.folds_of_trees rfl rfl fun owner root hroot => ?_
    cases owner with
    | registered | pending => exact hroot
    | node handle =>
      have hlt : handle < w.nodes.length := (List.getElem?_eq_some_iff.mp hroot).1
      simp only [trees, node?, getElem?_concat, Nat.ne_of_lt hlt, ↓reduceIte]
      exact hroot

/-- What is found when a factory was taken out. -/
theorem pending?_set (w : Workbench) (handle handle' : Nat) :
    (w.pending.set handle none)[handle']?.join =
      if handle = handle' then none else w.pending? handle' := by
  rw [List.getElem?_set]
  split
  · split <;> rfl
  · rfl

/-- The trees of other factories that were put down stay when one is taken out. -/
theorem trees_pending_of_ne {w' : Workbench} {handle handle' : Nat}
    (hpending : w'.pending = w.pending.set handle none)
    (hne : TreeOwner.pending handle' ≠ .pending handle) :
    w'.trees (.pending handle') = w.trees (.pending handle') := by
  have hne' : handle ≠ handle' := fun h => hne (congrArg TreeOwner.pending h.symm)
  simp only [trees, pending?, hpending, pending?_set, hne', ↓reduceIte]

/-- A workbench stays sound when a factory is taken out with the rules kept in its tree. -/
theorem Sound.takeOut (hw : w.Sound) (handle : Nat) :
    ({ w with pending := w.pending.set handle none, folds := w.folds.drop (.pending handle) } :
      Workbench).Sound where
  registry := hw.registry
  pending handle' f hf := by
    simp only [pending?, pending?_set] at hf
    split at hf
    · contradiction
    · exact hw.pending handle' f hf
  nodes := hw.nodes
  folds := by
    refine hw.folds_of_kept rfl fun k hk => ?_
    obtain ⟨hk, howner⟩ := List.mem_filter.mp hk
    refine ⟨k, hk, rfl, rfl, fun root hroot => ?_⟩
    cases hk' : k.1.owner with
    | registered | node =>
      rw [hk'] at hroot
      exact hroot
    | pending handle' =>
      rw [hk', decide_eq_true_eq] at howner
      rw [hk'] at hroot
      rwa [trees_pending_of_ne rfl howner]

/-- A workbench stays sound when a factory is taken out and registered with the rules kept in its
tree. -/
theorem Sound.registered (hw : w.Sound) {handle : Nat} {f : Factory}
    (hf : w.pending? handle = some f) {r : Registry} (hr : w.registry.register f = .ok r) :
    ({ w with
        registry := r
        pending := w.pending.set handle none
        folds := w.folds.move (.pending handle) (.registered f.name) } : Workbench).Sound where
  registry := hw.registry.register (hw.pending handle f hf) hr
  pending handle' g hg := by
    simp only [pending?, pending?_set] at hg
    split at hg
    · contradiction
    · exact (hw.pending handle' g hg).mono (Registry.extends_register hr)
  nodes handle' n hn := (hw.nodes handle' n hn).mono (Registry.extends_register hr)
  folds := by
    have hextends := Registry.extends_register hr
    refine hw.folds_of_kept hextends.natives fun k' hk' => ?_
    obtain ⟨k, hk, rfl⟩ := List.mem_map.mp hk'
    refine ⟨k, hk, ?_⟩
    split
    · next howner =>
      refine ⟨rfl, rfl, fun root hroot => ?_⟩
      simp only [howner, trees, hf, Option.bind_some] at hroot
      simp only [trees, Registry.factory?_register hr, ↓reduceIte, Option.bind_some]
      exact hroot
    · next howner =>
      refine ⟨rfl, rfl, fun root hroot => ?_⟩
      cases hk' : k.1.owner with
      | registered name =>
        rw [hk'] at hroot
        obtain ⟨g, hg, htree⟩ := Option.bind_eq_some_iff.mp hroot
        exact Option.bind_eq_some_iff.mpr ⟨g, hextends.factory? name g hg, htree⟩
      | node handle' =>
        rw [hk'] at hroot
        exact hroot
      | pending handle' =>
        rw [hk'] at hroot howner
        rwa [trees_pending_of_ne rfl howner]

end Changes

/-! ## Requests with and without optimization -/

/-- Two outcomes of one request with the same answer, which leave the same workbench but for
optimization and kept rules, the first a sound one. -/
structure Outcome.Alike {α : Type} (o o' : Outcome α) : Prop where
  sound : o.bench.Sound
  answer : o.answer = o'.answer
  bench : o.bench.plain = o'.bench.plain

/-- Outcomes that are alike stay so when the answers are told in the same way. -/
theorem Outcome.Alike.told {α : Type} {o o' : Outcome α} (h : o.Alike o') (tell : α → Answer) :
    (o.told tell).Alike (o'.told tell) :=
  ⟨h.sound, congrArg tell h.answer, h.bench⟩

/-- A request without optimization stays as it is without it. -/
theorem Request.plain_plain (request : Request) : request.plain.plain = request.plain := by
  cases request <;> rfl

namespace Sound

variable {w : Workbench}

/-- A sound workbench is sound without optimization and kept rules. -/
theorem plain (hw : w.Sound) : w.plain.Sound := by
  have hextends : w.registry.Extends w.registry.plain := ⟨rfl, fun _ _ h => h⟩
  constructor
  case registry => exact fun name f hf => (hw.registry name f hf).mono hextends
  case pending => exact fun handle f hf => (hw.pending handle f hf).mono hextends
  case nodes => exact fun handle n hn => (hw.nodes handle n hn).mono hextends
  case folds => exact fun k hk => absurd hk List.not_mem_nil

/-- Definitions are loaded alike. -/
theorem load_alike (hw : w.Sound) (text : String) : (w.load text).Alike (w.plain.load text) := by
  have hload := w.registry.loadText_plain text
  constructor
  case sound => exact hw.grow (Registry.extends_loadText ..) (hw.registry.loadText text)
  case answer => simp only [load, Workbench.plain, hload]
  case bench =>
    simp only [load, Workbench.plain, hload]
    rfl

/-- A factory is put down alike. -/
theorem define_alike (hw : w.Sound) (d : FactoryDefinition) :
    (w.define d).Alike (w.plain.define d) := by
  simp only [define, Workbench.plain, FactoryDefinition.resolve_plain]
  cases hf : d.resolve w.registry with
  | error e => exact ⟨hw, rfl, rfl⟩
  | ok f => exact ⟨hw.putDown (FactoryDefinition.linked_of_resolve hf), rfl, rfl⟩

/-- A factory that was put down is registered alike. -/
theorem register_alike (hw : w.Sound) {handle : Nat} {f : Factory}
    (hf : w.pending? handle = some f) :
    (w.register handle f).Alike (w.plain.register handle f) := by
  simp only [register, Workbench.plain, Registry.register_plain]
  cases hr : w.registry.register f with
  | error e => exact ⟨hw.takeOut handle, rfl, rfl⟩
  | ok r => exact ⟨hw.registered hf hr, rfl, rfl⟩

/-- A node is put down alike. -/
theorem keepNode_alike (hw : w.Sound) (d : NodeDefinition) :
    (w.keepNode d).Alike (w.plain.keepNode d) := by
  simp only [keepNode, Workbench.plain, NodeDefinition.resolve_plain]
  cases hn : d.resolve w.registry with
  | error e => exact ⟨hw, rfl, rfl⟩
  | ok n => exact ⟨hw.putNode (NodeDefinition.linked_of_resolve d hn), rfl, rfl⟩

variable (vars : Variables) (optimize : Bool) (arguments : List Argument)

/-- A node that was put down yields alike. -/
theorem evaluate_alike (hw : w.Sound) {handle : Nat} {n : Node} (hn : w.node? handle = some n) :
    (w.evaluate vars handle n optimize arguments).Alike
      (w.plain.evaluate vars handle n false arguments) := by
  obtain ⟨hanswer, hsound⟩ := hw.evaluate hn vars optimize arguments
  have hn' : w.plain.node? handle = some n := hn
  obtain ⟨hplain, -⟩ := hw.plain.evaluate hn' vars false arguments
  exact ⟨hsound, hanswer.trans hplain.symm, rfl⟩

/-- A factory whose tree has an owner builds alike. -/
theorem build_alike (hw : w.Sound) {owner : TreeOwner} {f : Factory} (hlinked : f.Linked w.registry)
    (htree : ∀ root, f.tree? = some root → w.trees owner = some root) :
    (w.build vars owner f optimize arguments).Alike
      (w.plain.build vars owner f false arguments) := by
  have hextends : w.registry.Extends w.registry.plain := ⟨rfl, fun _ _ h => h⟩
  have hown : w.trees.Own w.registry owner f := fun root hroot =>
    ⟨htree root hroot, hlinked root hroot⟩
  have hown' : w.plain.trees.Own w.plain.registry owner f := fun root hroot =>
    ⟨by cases owner <;> exact htree root hroot, hlinked.mono hextends root hroot⟩
  obtain ⟨hanswer, hsound⟩ := hw.build hown vars optimize arguments
  obtain ⟨hplain, -⟩ := hw.plain.build hown' vars false arguments
  exact ⟨hsound, hanswer.trans hplain.symm, rfl⟩

/-- A factory that was put down builds alike. -/
theorem buildPending_alike (hw : w.Sound) {handle : Nat} {f : Factory}
    (hf : w.pending? handle = some f) :
    (w.buildPending vars handle f optimize arguments).Alike
      (w.plain.buildPending vars handle f false arguments) := by
  refine hw.build_alike vars optimize arguments (hw.pending handle f hf) fun root hroot => ?_
  simp only [trees, hf, Option.bind_some, hroot]

/-- A registered factory builds alike. -/
theorem buildRegistered_alike (hw : w.Sound) (name : String) :
    (w.buildRegistered vars name optimize arguments).Alike
      (w.plain.buildRegistered vars name false arguments) := by
  have hfactory : w.plain.registry.factory name = w.registry.factory name := rfl
  simp only [buildRegistered, hfactory]
  cases hf : w.registry.factory name with
  | error e => exact ⟨hw, rfl, rfl⟩
  | ok f =>
    rw [Registry.factory_eq_ok] at hf
    have htree (root : Node) (hroot : f.tree? = some root) :
        w.trees (.registered name) = some root := by
      simp only [trees, hf, Option.bind_some, hroot]
    have hbuild := hw.build_alike vars optimize arguments (hw.registry name f hf) htree
    exact ⟨hbuild.sound, congrArg (Except.mapError _) hbuild.answer, hbuild.bench⟩

/-- A rule is built alike by the name of its factory. -/
theorem instantiate_alike (hw : w.Sound) (name : String) :
    (w.instantiate vars name arguments).Alike (w.plain.instantiate vars name arguments) :=
  hw.buildRegistered_alike vars w.registry.optimize arguments name

/-- A rule is built alike by the definition of a node. -/
theorem instantiateDefinition_alike (hw : w.Sound) (d : NodeDefinition) :
    (w.instantiateDefinition vars d).Alike (w.plain.instantiateDefinition vars d) := by
  cases d with
  | constant | cell | «variable» => exact ⟨hw, rfl, rfl⟩
  | call slot name children =>
    have hyield : NodeDefinition.yieldAll w.plain.registry vars children =
        NodeDefinition.yieldAll w.registry vars children :=
      NodeDefinition.yieldAll_plain vars children
    simp only [instantiateDefinition, hyield]
    cases NodeDefinition.yieldAll w.registry vars children with
    | error e => exact ⟨hw, rfl, rfl⟩
    | ok arguments => exact hw.instantiate_alike vars arguments name

/-- Every request has an outcome like that without optimization. -/
theorem serve_alike (hw : w.Sound) (request : Request) :
    (w.serve vars request).Alike (w.plain.serve vars request.plain) := by
  cases request with
  | load text => exact (hw.load_alike text).told fun loaded => .loaded loaded.1 loaded.2
  | define d => exact (hw.define_alike d).told _
  | register handle =>
    have hpending : w.plain.pending? handle = w.pending? handle := rfl
    simp only [serve, Request.plain, hpending]
    cases hf : w.pending? handle with
    | none => exact ⟨hw, rfl, rfl⟩
    | some f => exact (hw.register_alike hf).told _
  | keepNode d => exact (hw.keepNode_alike d).told _
  | setOptimize optimize =>
    have hextends : w.registry.Extends (w.setOptimize optimize).registry := ⟨rfl, fun _ _ h => h⟩
    refine ⟨hw.grow hextends fun name f hf => ?_, rfl, rfl⟩
    exact (hw.registry name f hf).mono hextends
  | instantiate name arguments => exact (hw.instantiate_alike vars arguments name).told _
  | instantiateDefinition d => exact (hw.instantiateDefinition_alike vars d).told _
  | buildRegistered name optimize arguments =>
    exact (hw.buildRegistered_alike vars optimize arguments name).told _
  | buildPending handle optimize arguments =>
    have hpending : w.plain.pending? handle = w.pending? handle := rfl
    simp only [serve, Request.plain, hpending]
    cases hf : w.pending? handle with
    | none => exact ⟨hw, rfl, rfl⟩
    | some f => exact (hw.buildPending_alike vars optimize arguments hf).told _
  | evaluate handle optimize arguments =>
    have hnode : w.plain.node? handle = w.node? handle := rfl
    simp only [serve, Request.plain, hnode]
    cases hn : w.node? handle with
    | none => exact ⟨hw, rfl, rfl⟩
    | some n => exact (hw.evaluate_alike vars optimize arguments hn).told _

end Sound

/-! ## What a name builds -/

namespace Sound

variable {w : Workbench} {vars : Variables} {i : Instance}

/-- On a sound workbench a name builds what the registry builds plainly, whatever rules are kept. -/
theorem answer_buildRegistered (hw : w.Sound) (vars : Variables) (name : String) (optimize : Bool)
    (arguments : List Argument) :
    (w.buildRegistered vars name optimize arguments).answer =
      w.registry.plain.instantiate vars name arguments := by
  have hfactory : w.registry.plain.factory name = w.registry.factory name := rfl
  unfold buildRegistered Registry.instantiate
  rw [hfactory]
  cases hf : w.registry.factory name with
  | error e => rfl
  | ok f =>
    rw [Registry.factory_eq_ok] at hf
    obtain rfl := Registry.name_of_factory? hf
    exact congrArg (Except.mapError _) (hw.build (hw.shared f hf) vars optimize arguments).1

/-- The rule that a name builds is the one that the factory found under it builds. -/
theorem buildRegistered_eq_ok (hw : w.Sound) {name : String} {f : Factory}
    (hf : w.registry.factory? name = some f) {optimize : Bool} {arguments : List Argument} :
    (w.buildRegistered vars name optimize arguments).answer = .ok i ↔
      f.instantiate (w.registry.plain.environment vars) false arguments = .ok i := by
  have hfound : w.registry.plain.factory? name = some f := hf
  rw [hw.answer_buildRegistered, Registry.instantiate_eq_ok]
  simp only [hfound, Option.some.injEq, exists_eq_left']
  rfl

end Sound

/-- A run leaves a sound workbench sound. -/
theorem Sound.after {w : Workbench} (hw : w.Sound) (steps : List (Variables × Request)) :
    (w.after steps).Sound := by
  induction steps generalizing w with
  | nil => exact hw
  | cons step rest ih =>
    obtain ⟨vars, request⟩ := step
    exact ih (hw.serve_alike vars request).sound

/-- A workbench with only a linked registry is sound. -/
theorem sound_new_of_linked {r : Registry} (hr : r.Linked) : (new r).Sound where
  registry := hr
  pending handle f hf := by simp [pending?, new] at hf
  nodes handle n hn := by simp [node?, new] at hn
  folds k hk := absurd hk List.not_mem_nil

/-- A workbench with only a registry without trees is sound. -/
theorem sound_new {r : Registry} (hr : ∀ f ∈ r.factories, f.tree? = none) : (new r).Sound := by
  refine sound_new_of_linked fun name f hf root hroot => ?_
  rw [hr f (List.mem_of_find?_eq_some hf)] at hroot
  contradiction

/-- Sound workbenches that are the same but for optimization and kept rules answer a run and the run
without optimization alike. -/
theorem Sound.answers_eq {w w' : Workbench} (hw : w.Sound) (hw' : w'.Sound)
    (hplain : w.plain = w'.plain) (steps : List (Variables × Request)) :
    w.answers steps = w'.answers (steps.map fun step => (step.1, step.2.plain)) := by
  induction steps generalizing w w' with
  | nil => rfl
  | cons step rest ih =>
    obtain ⟨vars, request⟩ := step
    have halike := hw.serve_alike vars request
    have halike' := hw'.serve_alike vars request.plain
    rw [Request.plain_plain, ← hplain] at halike'
    simp only [answers, List.map_cons]
    rw [halike.answer, halike'.answer,
      ih halike.sound halike'.sound (halike.bench.trans halike'.bench.symm)]

/-- Optimization never changes a result: a run that starts from a registry without trees, however
trees are optimized along it, is answered throughout like the run without any optimization. -/
theorem answers_eq_answers_plain {r : Registry} (hr : ∀ f ∈ r.factories, f.tree? = none)
    (steps : List (Variables × Request)) :
    (new r).answers steps = (new r.plain).answers (steps.map fun step => (step.1, step.2.plain)) :=
  (sound_new hr).answers_eq (sound_new hr).plain rfl steps

/-- A factory of matchers that accept cells with one text; its tree is a closed call. -/
def yesDefinition : FactoryDefinition where
  name := "Yes"
  description := ""
  output := .matcher
  formals := []
  body := .tree (.call "root" "Exact" [.cell "input" "*:*:*", .constant "against" (.string "yes")])

/-- Resolve and register `yesDefinition`, and build three rules with it. The second is kept, also
for the third, and the first is not. -/
def yesRun : List (Variables × Request) :=
  [.define yesDefinition, .register 0, .buildRegistered "Yes" false [], .setOptimize true,
    .instantiate "Yes" [], .instantiate "Yes" []].map fun request => (.empty, request)

/-- One rule is kept along `yesRun`, which changes no answer, and the last answer is a rule. -/
theorem answers_yesRun :
    (new .withBuiltins).answers yesRun =
        (new Registry.withBuiltins.plain).answers
          (yesRun.map fun step => (step.1, step.2.plain)) ∧
      ((new .withBuiltins).after yesRun).folds.kept.length = 1 ∧
      ∃ i, ((new .withBuiltins).answers yesRun).getLast? = some (.rule (.ok i)) := by
  have htrees : ∀ f ∈ Registry.withBuiltins.factories, f.tree? = none := by
    intro f hf
    obtain ⟨b, -, rfl⟩ := List.mem_map.mp hf
    rfl
  exact ⟨answers_eq_answers_plain htrees yesRun, rfl, _, rfl⟩

end Workbench

end GridAudit
