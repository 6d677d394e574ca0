import GridAudit.Definition.Json
import GridAudit.Proofs.Folding

/-!
# Trees call what is registered

Resolving a definition links every call to the factory that is registered under its name. Registries
only grow, and what is registered stays as it is, so trees stay linked. Nothing of this hangs on
whether trees are optimized.
-/

namespace GridAudit

/-- A registry of the same native bodies that has at least the same factories. -/
structure Registry.Extends (r r' : Registry) : Prop where
  natives : r'.natives = r.natives
  factory? : ∀ name f, r.factory? name = some f → r'.factory? name = some f

/-- A factory whose tree, if it has one, is linked. -/
def FactoryOf.Linked (r : Registry) (f : Factory) : Prop :=
  ∀ root, f.tree? = some root → root.Linked r

/-- A registry all of whose factories are linked. -/
def Registry.Linked (r : Registry) : Prop := ∀ name f, r.factory? name = some f → f.Linked r

/-- The registry set not to optimize trees. -/
def Registry.plain (r : Registry) : Registry := { r with optimize := false }

namespace Node

variable {r r' : Registry}

mutual

/-- A linked tree stays linked while the registry grows. -/
theorem Linked.mono (hr : r.Extends r') (n : Node) (h : n.Linked r) : n.Linked r' := by
  cases n with
  | constant | cell | «variable» => trivial
  | call slot factory children =>
    exact ⟨hr.factory? _ _ h.1, LinkedAll.mono hr children h.2⟩

/-- Linked trees stay linked while the registry grows. -/
theorem LinkedAll.mono (hr : r.Extends r') (nodes : List Node) (h : LinkedAll r nodes) :
    LinkedAll r' nodes := by
  cases nodes with
  | nil => trivial
  | cons n rest => exact ⟨Linked.mono hr n h.1, LinkedAll.mono hr rest h.2⟩

end

end Node

/-- A linked factory stays linked while the registry grows. -/
theorem FactoryOf.Linked.mono {r r' : Registry} {f : Factory} (h : f.Linked r) (hr : r.Extends r') :
    f.Linked r' :=
  fun root hroot => (h root hroot).mono hr

namespace Registry

variable {r r' r'' : Registry} {f g : Factory} {name : String}

/-- A registry extends itself. -/
theorem Extends.refl (r : Registry) : r.Extends r := ⟨rfl, fun _ _ h => h⟩

/-- Registries that grow twice grow. -/
theorem Extends.trans (h : r.Extends r') (h' : r'.Extends r'') : r.Extends r'' :=
  ⟨h'.natives.trans h.natives, fun name f hf => h'.factory? name f (h.factory? name f hf)⟩

/-- The factory found under a name has that name. -/
theorem name_of_factory? (h : r.factory? name = some f) : f.name = name := by
  simpa using List.find?_some h

/-- The factory of a name is the one found under it. -/
theorem factory_eq_ok : r.factory name = .ok f ↔ r.factory? name = some f := by
  unfold factory
  cases r.factory? name <;> simp

/-- A rule is built by name with the factory found under it. -/
theorem instantiate_eq_ok {vars : Variables} {arguments : List Argument} {i : Instance} :
    r.instantiate vars name arguments = .ok i ↔ ∃ f, r.factory? name = some f ∧
      f.instantiate (r.environment vars) r.optimize arguments = .ok i := by
  simp only [instantiate, bind_eq_ok, factory_eq_ok, mapError_eq_ok]

/-- A name builds the same whether trees are optimized or not. -/
theorem instantiate_plain (r : Registry) (vars : Variables) (name : String)
    (arguments : List Argument) :
    r.plain.instantiate vars name arguments = r.instantiate vars name arguments := by
  refine bind_congr_ok rfl fun f _ => ?_
  rw [FactoryOf.instantiate, FactoryOf.instantiate, Node.instantiate_optimize_eq f r.optimize]
  rfl

/-- The built-in rules have no trees. -/
theorem tree?_withBuiltins : ∀ f ∈ withBuiltins.factories, f.tree? = none := by
  intro f hf
  obtain ⟨b, -, rfl⟩ := List.mem_map.mp hf
  rfl

/-- A registered factory comes after the others, under a name that was free. -/
theorem register_eq_ok (h : r.register f = .ok r') :
    r.factory? f.name = none ∧ r' = { r with factories := r.factories ++ [f] } := by
  unfold register at h
  split at h
  · contradiction
  · next hrefusal =>
    refine ⟨?_, (Except.ok.inj h).symm⟩
    unfold refusal? at hrefusal
    split at hrefusal
    · contradiction
    · next hfree => simpa [isTaken, factory?] using hfree

/-- What is found after a factory was registered. -/
theorem factory?_register (h : r.register f = .ok r') (name : String) :
    r'.factory? name = if name = f.name then some f else r.factory? name := by
  obtain ⟨hfree, rfl⟩ := register_eq_ok h
  simp only [factory?, List.find?_append] at hfree ⊢
  by_cases hname : name = f.name
  · subst hname
    simp [hfree]
  · simp [hname, Ne.symm hname]

/-- Registering makes a registry grow. -/
theorem extends_register (h : r.register f = .ok r') : r.Extends r' where
  natives := by
    obtain ⟨-, rfl⟩ := register_eq_ok h
    rfl
  factory? name g hg := by
    rw [factory?_register h]
    split
    · next hname =>
      rw [hname, (register_eq_ok h).1] at hg
      contradiction
    · exact hg

/-- Registering a linked factory keeps a registry linked. -/
theorem Linked.register (hr : r.Linked) (hf : f.Linked r) (h : r.register f = .ok r') :
    r'.Linked := by
  intro name g hg
  rw [factory?_register h] at hg
  split at hg
  · obtain rfl := Option.some.inj hg
    exact hf.mono (extends_register h)
  · exact (hr name g hg).mono (extends_register h)

end Registry

/-! ## Resolving definitions -/

namespace NodeDefinition

variable {r : Registry}

mutual

/-- The node that a definition describes is linked. -/
theorem linked_of_resolve (d : NodeDefinition) {n : Node} (h : d.resolve r = .ok n) :
    n.Linked r := by
  cases d with
  | constant | «variable» =>
    obtain rfl := Except.ok.inj h
    trivial
  | cell slot address =>
    obtain ⟨target, -, h⟩ := bind_eq_ok.mp h
    obtain rfl := Except.ok.inj h
    trivial
  | call slot name children =>
    obtain ⟨factory, nodes, hfactory, hnodes, rfl⟩ := bind_bind_eq_ok.mp h
    rw [Registry.factory_eq_ok] at hfactory
    refine ⟨?_, linkedAll_of_resolveAll children hnodes⟩
    rwa [Registry.name_of_factory? hfactory]

/-- The nodes that definitions describe are linked. -/
theorem linkedAll_of_resolveAll (ds : List NodeDefinition) {nodes : List Node}
    (h : resolveAll r ds = .ok nodes) : Node.LinkedAll r nodes := by
  cases ds with
  | nil =>
    obtain rfl := Except.ok.inj h
    trivial
  | cons d rest =>
    obtain ⟨first, more, hfirst, hmore, rfl⟩ := bind_bind_eq_ok.mp h
    exact ⟨linked_of_resolve d hfirst, linkedAll_of_resolveAll rest hmore⟩

end

mutual

/-- A definition describes the same node whether trees are optimized or not. -/
theorem resolve_plain (d : NodeDefinition) : d.resolve r.plain = d.resolve r := by
  cases d with
  | constant | «variable» | cell => rfl
  | call slot name children =>
    simp only [resolve, resolveAll_plain children]
    rfl

/-- Definitions describe the same nodes whether trees are optimized or not. -/
theorem resolveAll_plain (ds : List NodeDefinition) : resolveAll r.plain ds = resolveAll r ds := by
  cases ds with
  | nil => rfl
  | cons d rest => simp only [resolveAll, resolve_plain d, resolveAll_plain rest]

end

/-- Definitions yield the same without arguments whether trees are optimized or not. -/
theorem yieldAll_plain (vars : Variables) (ds : List NodeDefinition) :
    yieldAll r.plain vars ds = yieldAll r vars ds := by
  induction ds with
  | nil => rfl
  | cons d rest ih =>
    simp only [yieldAll, resolve_plain d, ih]
    rfl

/-- Definitions that are resolved and evaluated one after another yield what they yield when all are
resolved first. -/
theorem yieldAll_eq_ok {vars : Variables} {ds : List NodeDefinition} {arguments : List Argument} :
    yieldAll r vars ds = .ok arguments ↔ ∃ nodes, resolveAll r ds = .ok nodes ∧
      Node.evaluateAll (r.environment vars) false [] nodes = .ok arguments := by
  induction ds generalizing arguments with
  | nil => simp only [yieldAll, resolveAll, Except.ok.injEq, exists_eq_left', Node.evaluateAll]
  | cons d rest ih =>
    constructor
    · intro h
      obtain ⟨node, hnode, h⟩ := bind_eq_ok.mp h
      obtain ⟨first, more, hfirst, hmore, rfl⟩ := bind_bind_eq_ok.mp h
      obtain ⟨nodes, hnodes, hmore⟩ := ih.mp hmore
      exact ⟨node :: nodes, bind_bind_eq_ok.mpr ⟨node, nodes, hnode, hnodes, rfl⟩,
        bind_bind_eq_ok.mpr ⟨first, more, mapError_eq_ok.mp hfirst, hmore, rfl⟩⟩
    · rintro ⟨all, hall, h⟩
      obtain ⟨node, nodes, hnode, hnodes, rfl⟩ := bind_bind_eq_ok.mp hall
      obtain ⟨first, more, hfirst, hmore, rfl⟩ := bind_bind_eq_ok.mp h
      have hmore := ih.mpr ⟨nodes, hnodes, hmore⟩
      exact bind_eq_ok.mpr ⟨node, hnode,
        bind_bind_eq_ok.mpr ⟨first, more, mapError_eq_ok.mpr hfirst, hmore, rfl⟩⟩

end NodeDefinition

namespace FactoryDefinition

variable {r : Registry}

/-- The factory that a definition describes is linked. -/
theorem linked_of_resolve {d : FactoryDefinition} {f : Factory} (h : d.resolve r = .ok f) :
    f.Linked r := by
  unfold resolve at h
  split at h
  · obtain rfl := Except.ok.inj h
    intro root hroot
    contradiction
  · obtain ⟨root, hroot, h⟩ := bind_eq_ok.mp h
    obtain rfl := Except.ok.inj h
    intro root' hroot'
    obtain rfl := Option.some.inj hroot'
    exact NodeDefinition.linked_of_resolve _ hroot

/-- A definition describes the same factory whether trees are optimized or not. -/
theorem resolve_plain (d : FactoryDefinition) : d.resolve r.plain = d.resolve r := by
  simp only [resolve, NodeDefinition.resolve_plain]

end FactoryDefinition

/-! ## Loading definitions -/

namespace Registry

variable {r r' : Registry}

/-- A factory is registered alike whether trees are optimized or not. -/
theorem register_plain (r : Registry) (f : Factory) :
    r.plain.register f = (r.register f).map plain := by
  have hrefusal : r.plain.refusal? f = r.refusal? f := rfl
  unfold register
  rw [hrefusal]
  cases r.refusal? f <;> rfl

/-- A definition is registered alike whether trees are optimized or not. -/
theorem define_plain (r : Registry) (d : FactoryDefinition) :
    r.plain.define d = (r.define d).map plain := by
  simp only [define, FactoryDefinition.resolve_plain, register_plain]
  cases d.resolve r <;> rfl

/-- What each definition that is registered keeps, loading definitions keeps. -/
theorem load_induction {motive : Registry → Prop} (h : motive r) (ds : List FactoryDefinition)
    (hdefine : ∀ r d r', motive r → r.define d = .ok r' → motive r') :
    motive (r.load ds).registry := by
  induction ds generalizing r with
  | nil => exact h
  | cons d rest ih =>
    unfold load
    cases hd : r.define d with
    | error e => exact h
    | ok r' => exact ih (hdefine r d r' h hd)

/-- What each definition that is registered keeps, loading a text keeps. -/
theorem loadText_induction {motive : Registry → Prop} (h : motive r) (text : String)
    (hdefine : ∀ r d r', motive r → r.define d = .ok r' → motive r') :
    motive (r.loadText text).registry := by
  unfold loadText
  cases FactoryDefinition.parseList text with
  | error fault => exact h
  | ok definitions => exact load_induction h definitions hdefine

/-- Registering what a definition describes makes a registry grow. -/
theorem extends_define {d : FactoryDefinition} (h : r.define d = .ok r') : r.Extends r' := by
  obtain ⟨f, -, h⟩ := bind_eq_ok.mp h
  exact extends_register h

/-- Loading a text makes a registry grow. -/
theorem extends_loadText (r : Registry) (text : String) : r.Extends (r.loadText text).registry :=
  loadText_induction (.refl r) text fun _ _ _ h hd => h.trans (extends_define hd)

/-- Registering what a definition describes keeps a registry linked. -/
theorem Linked.define (hr : r.Linked) {d : FactoryDefinition} (h : r.define d = .ok r') :
    r'.Linked := by
  obtain ⟨f, hf, h⟩ := bind_eq_ok.mp h
  exact hr.register (FactoryDefinition.linked_of_resolve hf) h

/-- Loading definitions keeps a registry linked. -/
theorem Linked.load (hr : r.Linked) (ds : List FactoryDefinition) : (r.load ds).registry.Linked :=
  load_induction hr ds fun _ _ _ hr hd => hr.define hd

/-- Loading a text keeps a registry linked. -/
theorem Linked.loadText (hr : r.Linked) (text : String) : (r.loadText text).registry.Linked :=
  loadText_induction hr text fun _ _ _ hr hd => hr.define hd

/-- Definitions are loaded alike whether trees are optimized or not. -/
theorem load_plain (r : Registry) (ds : List FactoryDefinition) :
    r.plain.load ds = { r.load ds with registry := (r.load ds).registry.plain } := by
  induction ds generalizing r with
  | nil => rfl
  | cons d rest ih =>
    simp only [load, define_plain]
    cases r.define d with
    | error e => rfl
    | ok r' =>
      simp only [Except.map, ih r']

/-- A text is loaded alike whether trees are optimized or not. -/
theorem loadText_plain (r : Registry) (text : String) :
    r.plain.loadText text =
      { r.loadText text with registry := (r.loadText text).registry.plain } := by
  unfold loadText
  cases FactoryDefinition.parseList text with
  | error fault => rfl
  | ok definitions => exact load_plain r definitions

end Registry

end GridAudit
