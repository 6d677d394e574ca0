import Mathlib.Logic.Relation
import GridAudit.Proofs.Registered
import GridAudit.Proofs.Typing

/-!
# Factories call earlier factories alone

A definition is resolved against what is registered, and its factory is registered later, after
whatever came in between, if its name is still free. So along a run a registry only ever gets
longer, and every call in the tree of a factory holds a factory that was registered before it. The
place of a factory bounds how deep the calls below it are nested, though nothing checks that:
looking every callee up by its name, a budget of as many nested calls as there are factories is
always enough.
-/

namespace GridAudit

/-- A factory that a call in the tree of another one holds. -/
def FactoryOf.Calls (f g : Factory) : Prop :=
  ∃ root, f.tree? = some root ∧ ∃ n ∈ root.nodes, n.factory? = some g

/-- The factory of the first name calls that of the second one. -/
def Registry.Calls (r : Registry) (name name' : String) : Prop :=
  ∃ f g : Factory, r.factory? name = some f ∧ f.Calls g ∧ g.name = name'

/-- A registry whose factories are found under their names, which differ, passed the checks of
registration, and call only factories before them. -/
structure Registry.Stratified (r : Registry) : Prop where
  stored : ∀ f ∈ r.factories, r.factory? f.name = some f
  unique : r.names.Nodup
  vetted : r.Vetted
  earlier : ∀ (i : Nat) (f g : Factory), r.factories[i]? = some f → f.Calls g → ∃ j < i,
    r.factories[j]? = some g

namespace Node

variable {r : Registry}

mutual

/-- The calls in a linked tree hold registered factories. -/
theorem Linked.factory?_eq (n : Node) (h : n.Linked r) :
    ∀ m ∈ n.nodes, ∀ g, m.factory? = some g → r.factory? g.name = some g := by
  intro m hm g hg
  cases n with
  | constant | cell | «variable» =>
    obtain rfl := List.mem_singleton.mp hm
    contradiction
  | call slot factory children =>
    rcases List.mem_cons.mp hm with rfl | hm
    · obtain rfl := Option.some.inj hg
      exact h.1
    · exact LinkedAll.factory?_eq children h.2 m hm g hg

/-- The calls in linked trees hold registered factories. -/
theorem LinkedAll.factory?_eq (nodes : List Node) (h : LinkedAll r nodes) :
    ∀ m ∈ nodesOf nodes, ∀ g, m.factory? = some g → r.factory? g.name = some g := by
  intro m hm g hg
  cases nodes with
  | nil => contradiction
  | cons n rest =>
    rcases List.mem_append.mp hm with hm | hm
    · exact Linked.factory?_eq n h.1 m hm g hg
    · exact LinkedAll.factory?_eq rest h.2 m hm g hg

end

end Node

/-- A linked factory calls registered factories. -/
theorem FactoryOf.Linked.factory?_eq {r : Registry} {f g : Factory} (hf : f.Linked r)
    (hcalls : f.Calls g) : r.factory? g.name = some g := by
  obtain ⟨root, hroot, n, hn, hg⟩ := hcalls
  exact (hf root hroot).factory?_eq root n hn g hg

/-! ## Registering -/

namespace Registry

variable {r r' : Registry} {f g : Factory} {name name' : String}

/-- A factory found under a name has a place. -/
theorem exists_getElem?_of_factory? (h : r.factory? name = some f) :
    ∃ i : Nat, r.factories[i]? = some f :=
  List.mem_iff_getElem?.mp (List.mem_of_find?_eq_some h)

/-- What is registered keeps its place. -/
theorem prefix_register (h : r.register f = .ok r') : r.factories <+: r'.factories := by
  rw [(register_eq_ok h).2]
  exact List.prefix_append _ _

/-- What is registered keeps its place while a text is loaded. -/
theorem prefix_loadText (r : Registry) (text : String) :
    r.factories <+: (r.loadText text).registry.factories :=
  loadText_induction (motive := fun r' => r.factories <+: r'.factories) List.prefix_rfl text
    fun _ _ _ h hd =>
      let ⟨_, _, hregister⟩ := bind_eq_ok.mp hd
      h.trans (prefix_register hregister)

/-- Without any factory nothing is out of order. -/
theorem stratified_of_nil (h : r.factories = []) : r.Stratified where
  stored f hf := by simp [h] at hf
  unique := by simp [names, h]
  vetted := ⟨fun f hf => by simp [h] at hf, fun f hf => by simp [h] at hf⟩
  earlier i f g hf := by simp [h] at hf

/-- The built-in rules have different names. -/
theorem nodup_names_withBuiltins : withBuiltins.names.Nodup := by decide

/-- Factories of different names are found under them. -/
theorem factory?_name_of_nodup (h : r.names.Nodup) (hf : f ∈ r.factories) :
    r.factory? f.name = some f := by
  have hpairwise : r.factories.Pairwise fun f g => f.name ≠ g.name := List.pairwise_map.mp h
  unfold factory?
  generalize r.factories = factories at hf hpairwise
  induction factories with
  | nil => contradiction
  | cons first rest ih =>
    obtain ⟨hfirst, hrest⟩ := List.pairwise_cons.mp hpairwise
    rcases List.mem_cons.mp hf with rfl | hf
    · simp
    · rw [List.find?_cons_of_neg (by simpa using hfirst f hf)]
      exact ih hf hrest

/-- The built-in rules call nothing. -/
theorem stratified_withBuiltins : withBuiltins.Stratified where
  stored _ hf := factory?_name_of_nodup nodup_names_withBuiltins hf
  unique := nodup_names_withBuiltins
  vetted := vetted_withBuiltins
  earlier i f g hf hcalls := by
    obtain ⟨b, -, rfl⟩ := List.mem_map.mp (List.mem_of_getElem? hf)
    obtain ⟨root, hroot, -⟩ := hcalls
    contradiction

namespace Stratified

/-- Registering a linked factory keeps the order: what it calls is registered, and it comes last. -/
theorem register (hr : r.Stratified) (hf : f.Linked r) (h : r.register f = .ok r') :
    r'.Stratified := by
  obtain ⟨hfree, hr'⟩ := register_eq_ok h
  have hunique : r'.names.Nodup := by
    have hnotMem : f.name ∉ r.names := by
      intro hmem
      obtain ⟨g, hg, hname⟩ := List.mem_map.mp hmem
      rw [← hname, hr.stored g hg] at hfree
      contradiction
    have hnames : r'.names = r.names ++ [f.name] := by
      rw [hr', names, List.map_append, List.map_singleton]
      rfl
    rw [hnames]
    exact List.nodup_append.mpr ⟨hr.unique, by simp, by grind⟩
  constructor
  case stored => exact fun g hg => factory?_name_of_nodup hunique hg
  case unique => exact hunique
  case vetted => exact hr.vetted.register h
  case earlier =>
    intro i g callee hg hcalls
    have hkept (j : Nat) (hj : r.factories[j]? = some callee) : r'.factories[j]? = some callee := by
      rw [hr', List.getElem?_append_left (List.getElem?_eq_some_iff.mp hj).1]
      exact hj
    rw [hr', Workbench.getElem?_concat] at hg
    split at hg
    · next hlast =>
      obtain rfl := Option.some.inj hg
      obtain ⟨j, hj⟩ := exists_getElem?_of_factory? (hf.factory?_eq hcalls)
      have hlt : j < r.factories.length := (List.getElem?_eq_some_iff.mp hj).1
      exact ⟨j, by omega, hkept j hj⟩
    · obtain ⟨j, hlt, hj⟩ := hr.earlier i g callee hg hcalls
      exact ⟨j, hlt, hkept j hj⟩

/-- Loading a text keeps the order. -/
theorem loadText (hr : r.Stratified) (text : String) : (r.loadText text).registry.Stratified :=
  loadText_induction hr text fun _ _ _ hr hd =>
    let ⟨_, hf, hregister⟩ := bind_eq_ok.mp hd
    hr.register (FactoryDefinition.linked_of_resolve hf) hregister

/-! ## What the order is good for -/

/-- A name that is called has an earlier place than the name that calls it. -/
theorem idxOf_lt (hr : r.Stratified) (h : r.Calls name name') :
    r.names.idxOf name' < r.names.idxOf name := by
  have hplace {i : Nat} {f : Factory} (hf : r.factories[i]? = some f) :
      r.names.idxOf f.name = i := by
    obtain ⟨hi, rfl⟩ := List.getElem?_eq_some_iff.mp hf
    have hi' : i < r.names.length := by rwa [names, List.length_map]
    have hname : r.names[i] = r.factories[i].name := List.getElem_map _
    rw [← hname]
    exact List.Nodup.idxOf_getElem hr.unique i hi'
  obtain ⟨f, g, hf, hcalls, rfl⟩ := h
  obtain rfl := name_of_factory? hf
  obtain ⟨i, hi⟩ := exists_getElem?_of_factory? hf
  obtain ⟨j, hlt, hj⟩ := hr.earlier i f g hi hcalls
  rwa [hplace hi, hplace hj]

/-- No factory calls itself, be it through others. -/
theorem not_transGen_calls (hr : r.Stratified) (name : String) :
    ¬Relation.TransGen r.Calls name name := by
  have hlt {name' : String} (h : Relation.TransGen r.Calls name name') :
      r.names.idxOf name' < r.names.idxOf name := by
    induction h with
    | single h => exact hr.idxOf_lt h
    | tail _ h ih => exact Nat.lt_trans (hr.idxOf_lt h) ih
  exact fun h => Nat.lt_irrefl _ (hlt h)

end Stratified

end Registry

/-! ## Building by name with a budget -/

namespace Node

variable {ε : Type}

mutual

/-- What a node yields when the rules of its calls are built by name. -/
def evaluateBy (build : String → List Argument → Except ε Instance) (arguments : List Argument) :
    Node → Except ε (List Argument)
  | .constant slot value => .ok [⟨slot, .constant value⟩]
  | .cell slot target => .ok [⟨slot, .cell target⟩]
  | .variable slot argument =>
    .ok ((Bound.valuesOf argument arguments).map fun value => ⟨slot, value⟩)
  | .call slot factory children => do
    let bound ← evaluateAllBy build arguments children
    let rule ← build factory.name bound
    return [⟨slot, rule.toParam⟩]

/-- What the nodes of a list yield, in order, when the rules of calls are built by name. -/
def evaluateAllBy (build : String → List Argument → Except ε Instance)
    (arguments : List Argument) : List Node → Except ε (List Argument)
  | [] => .ok []
  | n :: rest => do
    let first ← n.evaluateBy build arguments
    let more ← evaluateAllBy build arguments rest
    return first ++ more

end

end Node

/-- Build the rule of a name where every factory is looked up by its name when it is called, with a
budget for how deep calls are nested. It fails without a cause when the budget is used up or a name
is not registered. -/
def Registry.buildWithin (r : Registry) (vars : Variables) :
    Nat → String → List Argument → Except (Option InstantiationError) Instance
  | 0, _, _ => .error none
  | budget + 1, name, arguments => match r.factory? name with
    | none => .error none
    | some f => do
      let valid ← (f.signature.validate vars arguments).mapError some
      match f.body with
      | .native id => (f.signature.buildNative (r.environment vars) id valid).mapError some
      | .tree root => do
        let yielded ← root.evaluateBy (r.buildWithin vars budget) valid
        (f.signature.adopt (r.environment vars) valid yielded).mapError some

/-- A failure of one of two steps keeps its cause. -/
theorem mapError_bind {ε ε' α β : Type} (x : Except ε α) (f : α → Except ε β) (g : ε → ε') :
    (x >>= f).mapError g = x.mapError g >>= fun a => (f a).mapError g := by
  cases x <;> rfl

namespace Node

variable {env : Environment} {ε : Type} {cause : InstantiationError → ε}
  {build : String → List Argument → Except ε Instance}

mutual

/-- A node yields what it yields by name, if its calls build by name what their factories build. -/
theorem evaluateBy_eq (n : Node) (arguments : List Argument)
    (h : ∀ m ∈ n.nodes, ∀ g, m.factory? = some g → ∀ given,
      build g.name given = (g.instantiate env false given).mapError cause) :
    n.evaluateBy build arguments = (n.evaluate env false arguments).mapError cause := by
  cases n with
  | constant | cell | «variable» => rfl
  | call slot factory children =>
    have hchildren := evaluateAllBy_eq children arguments fun m hm =>
      h m (List.mem_cons_of_mem _ hm)
    have hbuild := h _ List.mem_cons_self factory rfl
    rw [evaluateBy, evaluate_call, mapError_bind, mapError_bind, bind_assoc, hchildren]
    apply bind_congr
    intro bound
    rw [hbuild]
    rfl

/-- Nodes yield what they yield by name, if their calls build by name what their factories build. -/
theorem evaluateAllBy_eq (nodes : List Node) (arguments : List Argument)
    (h : ∀ m ∈ nodesOf nodes, ∀ g, m.factory? = some g → ∀ given,
      build g.name given = (g.instantiate env false given).mapError cause) :
    evaluateAllBy build arguments nodes =
      (evaluateAll env false arguments nodes).mapError cause := by
  cases nodes with
  | nil => rfl
  | cons n rest =>
    have hfirst := evaluateBy_eq n arguments fun m hm => h m (List.mem_append_left _ hm)
    have hrest := evaluateAllBy_eq rest arguments fun m hm => h m (List.mem_append_right _ hm)
    rw [evaluateAllBy, evaluateAll, mapError_bind, hfirst]
    apply bind_congr
    intro first
    rw [hrest, mapError_bind]
    rfl

end

end Node

namespace Registry

variable {r r' : Registry} {f : Factory}

/-- A budget beyond the place of a factory is enough to build with it. -/
theorem Stratified.buildWithin_eq (hr : r.Stratified) (vars : Variables) {i budget : Nat}
    (hf : r.factories[i]? = some f) (hbudget : i < budget) (arguments : List Argument) :
    r.buildWithin vars budget f.name arguments =
      (f.instantiate (r.environment vars) false arguments).mapError some := by
  induction budget generalizing i f arguments with
  | zero => omega
  | succ budget ih =>
    obtain ⟨signature, body⟩ := f
    have hstored := hr.stored _ (List.mem_of_getElem? hf)
    simp only [buildWithin, hstored, FactoryOf.instantiate, Node.instantiate, mapError_bind]
    apply bind_congr
    intro valid
    cases body with
    | native id => rfl
    | tree root =>
      -- what the tree calls comes before the factory, so the rest of the budget is enough for it
      have hcalls : ∀ m ∈ root.nodes, ∀ g, m.factory? = some g → ∀ given,
          r.buildWithin vars budget g.name given =
            (g.instantiate (r.environment vars) false given).mapError some := by
        intro m hm g hg given
        obtain ⟨j, hlt, hj⟩ := hr.earlier i _ g hf ⟨root, rfl, m, hm, hg⟩
        apply ih hj
        omega
      simp only [Node.build, mapError_bind, Node.evaluateBy_eq root valid hcalls]

end Registry

/-! ## Runs -/

namespace Workbench

variable {w : Workbench}

/-- Every request keeps the order, and what is registered in its place. -/
theorem Sound.stratified_serve (hw : w.Sound) (hr : w.registry.Stratified) (vars : Variables)
    (request : Request) :
    (w.serve vars request).bench.registry.Stratified := by
  cases w.effect_serve vars request with
  | kept optimize hregistry =>
    rw [hregistry]
    exact ⟨hr.stored, hr.unique, ⟨hr.vetted.natives, hr.vetted.trees⟩, hr.earlier⟩
  | loaded text hregistry =>
    rw [hregistry]
    exact hr.loadText text
  | putDown _ hregistry | takenOut _ hregistry =>
    rw [hregistry]
    exact hr
  | registered hf hregistry => exact hr.register (hw.pending _ _ hf) hregistry

/-- Every request leaves the factories that were registered in their places. -/
theorem prefix_serve (w : Workbench) (vars : Variables) (request : Request) :
    w.registry.factories <+: (w.serve vars request).bench.registry.factories := by
  cases w.effect_serve vars request with
  | kept _ hregistry | putDown _ hregistry | takenOut _ hregistry =>
    exact hregistry ▸ List.prefix_rfl
  | loaded text hregistry =>
    rw [hregistry]
    exact Registry.prefix_loadText _ text
  | registered _ hregistry => exact Registry.prefix_register hregistry

/-- A run leaves the factories that were registered in their places. -/
theorem prefix_after (w : Workbench) (steps : List (Variables × Request)) :
    w.registry.factories <+: (w.after steps).registry.factories := by
  induction steps generalizing w with
  | nil => exact List.prefix_rfl
  | cons step rest ih => exact (w.prefix_serve step.1 step.2).trans (ih _)

/-- A run on a sound workbench keeps the order. -/
theorem Sound.stratified_after (hw : w.Sound) (hr : w.registry.Stratified)
    (steps : List (Variables × Request)) : (w.after steps).registry.Stratified := by
  induction steps generalizing w with
  | nil => exact hr
  | cons step rest ih =>
    exact ih (hw.serve_alike step.1 step.2).sound (hw.stratified_serve hr step.1 step.2)

/-- The registry of a workbench is stratified, no factory in it calls itself, be it through others,
building with any of its factories nests calls no deeper than there are factories, and whatever is
requested later leaves its factories in their places. -/
structure Layered (w : Workbench) : Prop where
  stratified : w.registry.Stratified
  acyclic : ∀ name, ¬Relation.TransGen w.registry.Calls name name
  bounded : ∀ f ∈ w.registry.factories, ∀ vars optimize arguments,
    w.registry.buildWithin vars w.registry.count f.name arguments =
      (f.instantiate (w.registry.environment vars) optimize arguments).mapError some
  stays : ∀ steps, w.registry.factories <+: (w.after steps).registry.factories

/-- A workbench with a stratified registry is layered. -/
theorem layered_of_stratified (hr : w.registry.Stratified) : w.Layered where
  stratified := hr
  acyclic := hr.not_transGen_calls
  bounded f hf vars optimize arguments := by
    obtain ⟨i, hi⟩ := List.mem_iff_getElem?.mp hf
    have hlt : i < w.registry.count := (List.getElem?_eq_some_iff.mp hi).1
    rw [hr.buildWithin_eq vars hi hlt, FactoryOf.instantiate, FactoryOf.instantiate,
      Node.instantiate_optimize_eq f optimize]
  stays := w.prefix_after

/-- Registries are append-only and stratified: whatever is requested of a workbench that starts with
the built-in rules or without any factory, loading, resolving and registering in any order and with
any failures, its factories are found under their names, which differ, passed the checks of
registration, and call only factories before them. -/
theorem layered_after {r : Registry} (hr : r = .withBuiltins ∨ r.factories = [])
    (steps : List (Variables × Request)) : ((new r).after steps).Layered := by
  have hnew : r.Linked ∧ r.Stratified := by
    rcases hr with rfl | hnil
    · exact ⟨linked_withBuiltins, Registry.stratified_withBuiltins⟩
    · refine ⟨fun name f hf => ?_, Registry.stratified_of_nil hnil⟩
      simp [Registry.factory?, hnil] at hf
  exact layered_of_stratified ((sound_new_of_linked hnew.1).stratified_after hnew.2 steps)

/-- A factory of matchers whose tree is a call of the factory of another name, or of its own. -/
def callDefinition (name callee : String) : FactoryDefinition where
  name := name
  description := ""
  output := .matcher
  formals := []
  body := .tree (.call "root" callee [])

/-- A definition that calls its own name is not resolved while the name is free, and calls another
factory once it is taken, when it cannot be registered any more. -/
def selfCallRun : List (Variables × Request) :=
  [.define yesDefinition, .define (callDefinition "Yes" "Yes"), .register 0,
    .define (callDefinition "Yes" "Yes"), .register 1, .define (callDefinition "Also" "Also"),
    .define (callDefinition "Also" "Yes"), .register 2].map fun request => (.empty, request)

/-- Two factories are registered along `selfCallRun`, and the second calls the first. -/
theorem layered_selfCallRun :
    let w := (new .withBuiltins).after selfCallRun
    w.Layered ∧ w.registry.names.drop Builtin.list.length = ["Yes", "Also"] ∧
      w.registry.Calls "Also" "Yes" :=
  ⟨layered_after (.inl rfl) selfCallRun, rfl, _, _, rfl,
    ⟨_, rfl, _, List.mem_cons_self, rfl⟩, rfl⟩

end Workbench

end GridAudit
