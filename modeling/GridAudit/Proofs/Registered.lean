import GridAudit.Proofs.Optimization

/-!
# What runs register

What a request can do to the registry and to the factories that were put down is said once, as an
effect: requests that build or evaluate leave them as they are. So a workbench that started with the
built-in rules has in its registry, whatever was requested since, only factories that passed the
checks of registration: native bodies are there, and trees have no faults.
-/

namespace GridAudit

namespace Registry

variable {r r' : Registry}

/-- A registry all of whose factories passed the checks of registration. -/
structure Vetted (r : Registry) : Prop where
  natives : ∀ f ∈ r.factories, ∀ id, f.body = .native id → r.hasNative id
  trees : ∀ f ∈ r.factories, f.check = []

/-- The built-in rules have their bodies. -/
theorem vetted_withBuiltins : withBuiltins.Vetted where
  natives f hf id hid := by
    obtain ⟨b, hb, rfl⟩ := List.mem_map.mp hf
    obtain rfl := FactoryBody.native.inj hid
    exact List.any_eq_true.mpr ⟨b, hb, decide_eq_true rfl⟩
  trees f hf := by
    obtain ⟨b, -, rfl⟩ := List.mem_map.mp hf
    rfl

/-- A factory that may be registered passes the checks. -/
theorem passes_of_refusal? {f : Factory} (h : r.refusal? f = none) :
    (∀ id, f.body = .native id → r.hasNative id) ∧ f.check = [] := by
  obtain ⟨signature, body⟩ := f
  unfold refusal? at h
  split at h
  · contradiction
  · cases body with
    | native id =>
      refine ⟨fun id' hid => ?_, rfl⟩
      obtain rfl := FactoryBody.native.inj hid
      cases hnative : r.hasNative id with
      | true => rfl
      | false => simp [hnative] at h
    | tree root =>
      refine ⟨nofun, ?_⟩
      cases hcheck : FactoryOf.check ⟨signature, .tree root⟩ with
      | nil => rfl
      | cons e errors => simp [hcheck] at h

namespace Vetted

/-- Registering a factory checks it. -/
theorem register (hr : r.Vetted) {f : Factory} (h : r.register f = .ok r') : r'.Vetted := by
  unfold Registry.register at h
  split at h
  · contradiction
  · next hrefusal =>
    obtain ⟨hnative, hcheck⟩ := passes_of_refusal? hrefusal
    obtain rfl := Except.ok.inj h
    exact ⟨List.forall_mem_append.mpr ⟨hr.natives, List.forall_mem_singleton.mpr hnative⟩,
      List.forall_mem_append.mpr ⟨hr.trees, List.forall_mem_singleton.mpr hcheck⟩⟩

/-- Loading a text checks every factory it registers. -/
theorem loadText (hr : r.Vetted) (text : String) : (r.loadText text).registry.Vetted :=
  loadText_induction hr text fun _ _ _ hr hd =>
    let ⟨_, _, hregister⟩ := bind_eq_ok.mp hd
    hr.register hregister

end Vetted

end Registry

/-- The built-in rules have their factories in the registry of built-in rules. -/
theorem Builtin.factory?_withBuiltins (b : Builtin) :
    Registry.withBuiltins.factory? b.name = some (Registry.builtinFactory b) := by
  cases b <;> rfl

namespace Workbench

variable {w : Workbench}

/-- What a request does to what is registered and put down. -/
inductive Effect (w w' : Workbench) : Prop
  /-- All is kept, and whether trees are optimized may be set. -/
  | kept (optimize : Bool) (hregistry : w'.registry = { w.registry with optimize })
      (hpending : w'.pending = w.pending)
  /-- Definitions are loaded from a text. -/
  | loaded (text : String) (hregistry : w'.registry = (w.registry.loadText text).registry)
      (hpending : w'.pending = w.pending)
  /-- A factory that was resolved is put down. -/
  | putDown {d : FactoryDefinition} {f : Factory} (hf : d.resolve w.registry = .ok f)
      (hregistry : w'.registry = w.registry) (hpending : w'.pending = w.pending ++ [some f])
  /-- A factory is taken out. -/
  | takenOut (handle : Nat) (hregistry : w'.registry = w.registry)
      (hpending : w'.pending = w.pending.set handle none)
  /-- A factory is taken out and registered. -/
  | registered {handle : Nat} {f : Factory} (hf : w.pending? handle = some f)
      (hregistry : w.registry.register f = .ok w'.registry)
      (hpending : w'.pending = w.pending.set handle none)

/-- A request that registers and puts down nothing. -/
theorem Effect.same {w' : Workbench} (hregistry : w'.registry = w.registry)
    (hpending : w'.pending = w.pending) : w.Effect w' :=
  .kept w.registry.optimize hregistry hpending

/-- A rule that is built by name registers nothing. -/
theorem effect_buildRegistered (vars : Variables) (name : String) (optimize : Bool)
    (arguments : List Argument) :
    w.Effect (w.buildRegistered vars name optimize arguments).bench := by
  unfold buildRegistered
  split
  · exact .same rfl rfl
  · exact .same rfl rfl

/-- Every request has one of these effects. -/
theorem effect_serve (w : Workbench) (vars : Variables) (request : Request) :
    w.Effect (w.serve vars request).bench := by
  cases request with
  | load text => exact .loaded text rfl rfl
  | define d =>
    simp only [serve, define]
    split
    · exact .same rfl rfl
    · next f hf => exact .putDown hf rfl rfl
  | register handle =>
    simp only [serve, register]
    split
    · next f hf =>
      simp only [Outcome.told]
      split
      · exact .takenOut handle rfl rfl
      · next hr => exact .registered hf hr rfl
    · exact .same rfl rfl
  | keepNode d =>
    simp only [serve, keepNode]
    split <;> exact .same rfl rfl
  | setOptimize optimize => exact .kept optimize rfl rfl
  | instantiate name arguments => exact effect_buildRegistered vars name _ arguments
  | buildRegistered name optimize arguments =>
    exact effect_buildRegistered vars name optimize arguments
  | instantiateDefinition d =>
    simp only [serve, Outcome.told, instantiateDefinition]
    split
    · split
      · exact .same rfl rfl
      · exact effect_buildRegistered vars _ _ _
    · exact .same rfl rfl
  | buildPending handle optimize arguments =>
    simp only [serve]
    split <;> exact .same rfl rfl
  | evaluate handle optimize arguments =>
    simp only [serve]
    split <;> exact .same rfl rfl

/-- No request leaves a factory registered that was not checked. -/
theorem vetted_serve (hw : w.registry.Vetted) (vars : Variables) (request : Request) :
    (w.serve vars request).bench.registry.Vetted := by
  cases w.effect_serve vars request with
  | kept optimize hregistry =>
    rw [hregistry]
    exact ⟨hw.natives, hw.trees⟩
  | loaded text hregistry =>
    rw [hregistry]
    exact hw.loadText text
  | putDown _ hregistry | takenOut _ hregistry =>
    rw [hregistry]
    exact hw
  | registered _ hregistry => exact hw.register hregistry

/-- A request takes nothing from the registry. -/
theorem extends_serve (w : Workbench) (vars : Variables) (request : Request) :
    w.registry.Extends (w.serve vars request).bench.registry := by
  cases w.effect_serve vars request with
  | kept optimize hregistry =>
    rw [hregistry]
    exact ⟨rfl, fun _ _ h => h⟩
  | loaded text hregistry =>
    rw [hregistry]
    exact Registry.extends_loadText _ text
  | putDown _ hregistry | takenOut _ hregistry =>
    rw [hregistry]
    exact .refl _
  | registered _ hregistry => exact Registry.extends_register hregistry

/-- A run takes nothing from the registry. -/
theorem extends_after (w : Workbench) (steps : List (Variables × Request)) :
    w.registry.Extends (w.after steps).registry := by
  induction steps generalizing w with
  | nil => exact .refl _
  | cons step rest ih => exact (w.extends_serve step.1 step.2).trans (ih _)

/-- A workbench that a run leads to from the built-in rules. -/
def Reachable (w : Workbench) : Prop := ∃ steps, (new .withBuiltins).after steps = w

/-- The built-in rules are linked, as they have no trees. -/
theorem linked_withBuiltins : Registry.withBuiltins.Linked :=
  (sound_new Registry.tree?_withBuiltins).registry

/-- On a reachable workbench all trees are linked and all kept rules sound. -/
theorem Reachable.sound (h : w.Reachable) : w.Sound := by
  obtain ⟨steps, rfl⟩ := h
  exact (sound_new_of_linked linked_withBuiltins).after steps

/-- On a reachable workbench the built-in rules are registered, and there are no other native
bodies. -/
theorem Reachable.extends_withBuiltins (h : w.Reachable) :
    Registry.withBuiltins.Extends w.registry := by
  obtain ⟨steps, rfl⟩ := h
  exact (new .withBuiltins).extends_after steps

/-- A run leaves only checked factories registered. -/
theorem vetted_after (hw : w.registry.Vetted) (steps : List (Variables × Request)) :
    (w.after steps).registry.Vetted := by
  induction steps generalizing w with
  | nil => exact hw
  | cons step rest ih => exact ih (vetted_serve hw step.1 step.2)

/-- On a reachable workbench every registered factory passed the checks. -/
theorem Reachable.vetted (h : w.Reachable) : w.registry.Vetted := by
  obtain ⟨steps, rfl⟩ := h
  exact vetted_after Registry.vetted_withBuiltins steps

/-- On a reachable workbench a built-in rule is built of arguments that are valid for it, as its
body is built of the valid ones. -/
theorem Reachable.buildRegistered_builtin_eq_ok (hw : w.Reachable) {vars : Variables}
    {optimize : Bool} {b : Builtin} {arguments : List Argument} {i : Instance} :
    (w.buildRegistered vars b.name optimize arguments).answer = .ok i ↔
      ∃ valid body, (Registry.builtinFactory b).signature.validate vars arguments = .ok valid ∧
        b.build valid = .ok body ∧ body.kind = b.kind ∧ body.toInstance b.name valid = i := by
  have hextends := hw.extends_withBuiltins
  have hfound := hextends.factory? _ _ b.factory?_withBuiltins
  have hnative : (w.registry.plain.environment vars).native? b.id = some b := by
    have hnatives : (w.registry.plain.environment vars).natives = Builtin.list := hextends.natives
    rw [Environment.native?, hnatives]
    cases b <;> rfl
  rw [hw.sound.buildRegistered_eq_ok hfound, FactoryOf.instantiate, Node.instantiate, bind_eq_ok]
  refine exists_congr fun valid => ⟨?_, ?_⟩
  · rintro ⟨hvalid, hbuilt⟩
    obtain ⟨native, body, hfound, hbody⟩ := Signature.buildNative_eq_ok.mp hbuilt
    obtain rfl := Option.some.inj (hnative.symm.trans hfound)
    exact ⟨body, hvalid, hbody⟩
  · rintro ⟨body, hvalid, hbody⟩
    exact ⟨hvalid, Signature.buildNative_eq_ok.mpr ⟨b, body, hnative, hbody⟩⟩

end Workbench

end GridAudit
