import GridAudit.Proofs.AddressText
import GridAudit.Proofs.LoadedPrefix
import GridAudit.Proofs.Registered

/-!
# Exported rules load back

Describing a factory that was resolved from a definition gives a definition that resolves to the
same factory: its formals are normalized, its addresses are read back as they are written, and its
calls go by the names of factories that stay registered. So whatever was requested of a workbench
that started with the built-in rules, the definitions of the factories after these, in their order,
load into the built-in rules without a failure and make the same registry, which builds the same
rules.
-/

namespace GridAudit

/-! ## Normalized formals -/

namespace Formal

variable {formals : List Formal} {f : Formal}

/-- A name declared before keeps its place, and a new one comes last. -/
theorem names_declare : (declare formals f).map name =
    if f.name ∈ formals.map name then formals.map name else formals.map name ++ [f.name] := by
  have hany : formals.any (·.name = f.name) = true ↔ f.name ∈ formals.map name := by
    simp [List.mem_map]
  unfold declare
  by_cases h : f.name ∈ formals.map name
  · rw [if_pos (hany.mpr h), if_pos h, List.map_map]
    refine List.map_congr_left fun g _ => ?_
    simp only [Function.comp_apply]
    split
    · next hname => exact hname.symm
    · rfl
  · rw [if_neg (mt hany.mp h), if_neg h, List.map_append, List.map_singleton]

/-- A declaration of a new name comes last. -/
theorem declare_of_notMem (h : f.name ∉ formals.map name) : declare formals f = formals ++ [f] := by
  rw [declare, if_neg]
  simpa using h

/-- Declarations keep names different. -/
theorem nodup_declare (h : (formals.map name).Nodup) (f : Formal) :
    ((declare formals f).map name).Nodup := by
  rw [names_declare]
  split
  · exact h
  · next hf => exact List.nodup_append.mpr ⟨h, by simp, by simpa using hf⟩

/-- Normalized declarations have different names. -/
theorem nodup_normalize (formals : List Formal) : ((normalize formals).map name).Nodup :=
  List.foldlRecOn (motive := fun kept : List Formal => (kept.map name).Nodup) formals declare
    (List.nodup_nil : (([] : List Formal).map name).Nodup) fun _ hkept f _ => nodup_declare hkept f

/-- Declarations of different names are put one after another. -/
theorem foldl_declare (kept : List Formal) (h : ((kept ++ formals).map name).Nodup) :
    formals.foldl declare kept = kept ++ formals := by
  induction formals generalizing kept with
  | nil => rw [List.foldl_nil, List.append_nil]
  | cons f rest ih =>
    have hf : f.name ∉ kept.map name := by
      rw [List.map_append, List.map_cons] at h
      exact fun hmem => (List.nodup_append.mp h).2.2 _ hmem _ List.mem_cons_self rfl
    rw [List.append_cons] at h ⊢
    rw [List.foldl_cons, declare_of_notMem hf, ih (kept ++ [f]) h]

/-- Normalized declarations are normalized. -/
theorem normalize_normalize (formals : List Formal) :
    normalize (normalize formals) = normalize formals :=
  foldl_declare [] (nodup_normalize formals)

end Formal

/-! ## Describing what was resolved -/

namespace NodeDefinition

variable {r r' : Registry}

mutual

/-- The description of a resolved node resolves to it. -/
theorem resolve_describe (d : NodeDefinition) {n : Node} (h : d.resolve r = .ok n) :
    (describe n).resolve r = .ok n := by
  cases d with
  | constant | «variable» =>
    obtain rfl := Except.ok.inj h
    rfl
  | cell slot address =>
    obtain ⟨target, htarget, h⟩ := bind_eq_ok.mp h
    obtain rfl := Except.ok.inj h
    have hparse := (CellRange.readable_of_parse (mapError_eq_ok.mp htarget)).parse_text
    simp only [describe, resolve, hparse]
    rfl
  | call slot name children =>
    obtain ⟨factory, nodes, hfactory, hnodes, rfl⟩ := bind_bind_eq_ok.mp h
    have hname : factory.name = name :=
      Registry.name_of_factory? (Registry.factory_eq_ok.mp hfactory)
    simp only [describe, resolve, hname, hfactory, resolveAll_describeAll children hnodes]
    rfl

/-- The descriptions of resolved nodes resolve to them. -/
theorem resolveAll_describeAll (ds : List NodeDefinition) {nodes : List Node}
    (h : resolveAll r ds = .ok nodes) : resolveAll r (describeAll nodes) = .ok nodes := by
  cases ds with
  | nil =>
    obtain rfl := Except.ok.inj h
    rfl
  | cons d rest =>
    obtain ⟨first, more, hfirst, hmore, rfl⟩ := bind_bind_eq_ok.mp h
    simp only [describeAll, resolveAll, resolve_describe d hfirst,
      resolveAll_describeAll rest hmore]
    rfl

end

mutual

/-- A definition that resolves keeps resolving to the same node while the registry grows. -/
theorem resolve_mono (hr : r.Extends r') (d : NodeDefinition) {n : Node} (h : d.resolve r = .ok n) :
    d.resolve r' = .ok n := by
  cases d with
  | constant | cell | «variable» => exact h
  | call slot name children =>
    obtain ⟨factory, hfactory, h⟩ := bind_eq_ok.mp h
    obtain ⟨nodes, hnodes, h⟩ := bind_eq_ok.mp h
    have hfactory' := hr.factory? name factory (Registry.factory_eq_ok.mp hfactory)
    simp only [resolve, Registry.factory_eq_ok.mpr hfactory', resolveAll_mono hr children hnodes]
    exact h

/-- Definitions that resolve keep resolving to the same nodes while the registry grows. -/
theorem resolveAll_mono (hr : r.Extends r') (ds : List NodeDefinition) {nodes : List Node}
    (h : resolveAll r ds = .ok nodes) : resolveAll r' ds = .ok nodes := by
  cases ds with
  | nil => exact h
  | cons d rest =>
    obtain ⟨first, hfirst, h⟩ := bind_eq_ok.mp h
    obtain ⟨more, hmore, h⟩ := bind_eq_ok.mp h
    simp only [resolveAll, resolve_mono hr d hfirst, resolveAll_mono hr rest hmore]
    exact h

end

end NodeDefinition

namespace FactoryDefinition

variable {r r' : Registry} {d : FactoryDefinition} {f : Factory}

/-- The description of a resolved factory resolves to it. -/
theorem resolve_describe (h : d.resolve r = .ok f) : (describe f).resolve r = .ok f := by
  have hformals (name description : String) (output : RuleKind) (formals : List Formal)
      (body : FactoryBody Node) :
      FactoryOf.define name description output (Formal.normalize formals) body =
        .define name description output formals body := by
    simp only [FactoryOf.define, Formal.normalize_normalize]
  unfold resolve at h
  split at h
  · obtain rfl := Except.ok.inj h
    exact congrArg Except.ok (hformals ..)
  · obtain ⟨root, hroot, h⟩ := bind_eq_ok.mp h
    obtain rfl := Except.ok.inj h
    have hdescribe := NodeDefinition.resolve_describe _ hroot
    simp only [describe, FactoryOf.define, resolve, hdescribe]
    exact congrArg Except.ok (hformals ..)

/-- A definition that resolves keeps resolving to the same factory while the registry grows. -/
theorem resolve_mono (hr : r.Extends r') (h : d.resolve r = .ok f) : d.resolve r' = .ok f := by
  unfold resolve at h ⊢
  split at h
  · exact h
  · obtain ⟨root, hroot, h⟩ := bind_eq_ok.mp h
    simp only [NodeDefinition.resolve_mono hr _ hroot]
    exact h

end FactoryDefinition

/-! ## Loading what is described -/

namespace Registry

variable {r r' r'' : Registry}

/-- The definitions of the factories after the built-in rules, in their order. -/
def exported (r : Registry) : List FactoryDefinition :=
  (r.factories.drop Builtin.list.length).map FactoryDefinition.describe

/-- One more definition is loaded after the others when these are loaded without a failure. -/
theorem load_concat {ds : List FactoryDefinition} {names : List String}
    (h : r.load ds = ⟨r', names, none⟩) {d : FactoryDefinition} (hd : r'.define d = .ok r'') :
    r.load (ds ++ [d]) = ⟨r'', names ++ [d.name], none⟩ := by
  rw [load_append, h]
  simp only [Loading.andLoad, load, hd]

/-- A registry that starts with the built-in rules and replays: the definitions of the factories
after these load to just these factories. -/
def Replays (r : Registry) : Prop :=
  ∃ added, r.factories = withBuiltins.factories ++ added ∧
    withBuiltins.plain.load (added.map FactoryDefinition.describe) =
      ⟨r.plain, added.map FactoryOf.name, none⟩

/-- A registry that replays does so with one more factory, when its description resolves to it. -/
theorem Replays.register (hr : r.Replays) {f : Factory}
    (hf : (FactoryDefinition.describe f).resolve r = .ok f) (h : r.register f = .ok r') :
    r'.Replays := by
  obtain ⟨added, hfactories, hload⟩ := hr
  have hdefine : r.plain.define (FactoryDefinition.describe f) = .ok r'.plain := by
    rw [define_plain, define, hf]
    exact congrArg (Except.map plain) h
  refine ⟨added ++ [f], ?_, ?_⟩
  · rw [(register_eq_ok h).2, hfactories, List.append_assoc]
  · rw [List.map_append, List.map_append, List.map_singleton, List.map_singleton]
    exact load_concat hload hdefine

/-- A registry that replays does so after a text was loaded. -/
theorem Replays.loadText (hr : r.Replays) (text : String) : (r.loadText text).registry.Replays :=
  loadText_induction hr text fun _ _ _ hr hd =>
    let ⟨_, hf, hregister⟩ := bind_eq_ok.mp hd
    hr.register (FactoryDefinition.resolve_describe hf) hregister

end Registry

/-! ## Runs -/

namespace Workbench

variable {w : Workbench}

/-- A workbench whose registry replays, and whose factories that were put down are those that their
descriptions resolve to. -/
structure Replays (w : Workbench) : Prop where
  registry : w.registry.Replays
  pending : ∀ handle f, w.pending? handle = some f →
    (FactoryDefinition.describe f).resolve w.registry = .ok f

/-- A workbench with the built-in rules alone replays. -/
theorem replays_new : (new .withBuiltins).Replays where
  registry := ⟨[], (List.append_nil _).symm, rfl⟩
  pending handle f hf := by simp [pending?, new] at hf

/-- Factories that stay put down are described as before while the registry grows. -/
theorem Replays.pending_mono (hw : w.Replays) {w' : Workbench}
    (hr : w.registry.Extends w'.registry)
    (hkept : ∀ handle f, w'.pending? handle = some f → w.pending? handle = some f) :
    ∀ handle f, w'.pending? handle = some f →
      (FactoryDefinition.describe f).resolve w'.registry = .ok f := fun handle f hf =>
  FactoryDefinition.resolve_mono hr (hw.pending handle f (hkept handle f hf))

/-- What is put down when a factory was taken out was put down before. -/
theorem pending?_of_takenOut {w' : Workbench} {handle : Nat}
    (hpending : w'.pending = w.pending.set handle none) (handle' : Nat) (f : Factory)
    (hf : w'.pending? handle' = some f) : w.pending? handle' = some f := by
  rw [pending?, hpending, pending?_set] at hf
  split at hf
  · contradiction
  · exact hf

/-- No request spoils that a workbench replays. -/
theorem Replays.serve (hw : w.Replays) (vars : Variables) (request : Request) :
    (w.serve vars request).bench.Replays := by
  cases w.effect_serve vars request with
  | kept optimize hregistry hpending =>
    have hextends : w.registry.Extends (w.serve vars request).bench.registry :=
      hregistry ▸ ⟨rfl, fun _ _ h => h⟩
    exact ⟨hregistry ▸ hw.registry,
      hw.pending_mono hextends fun _ _ hf => by rwa [pending?, hpending] at hf⟩
  | loaded text hregistry hpending =>
    have hextends : w.registry.Extends (w.serve vars request).bench.registry :=
      hregistry ▸ Registry.extends_loadText w.registry text
    exact ⟨hregistry ▸ hw.registry.loadText text,
      hw.pending_mono hextends fun _ _ hf => by rwa [pending?, hpending] at hf⟩
  | @putDown d f hf hregistry hpending =>
    refine ⟨hregistry ▸ hw.registry, fun handle g hg => ?_⟩
    rw [pending?, hpending, getElem?_concat] at hg
    rw [hregistry]
    split at hg
    · obtain rfl := Option.some.inj hg
      exact FactoryDefinition.resolve_describe hf
    · exact hw.pending handle g hg
  | takenOut handle hregistry hpending =>
    exact ⟨hregistry ▸ hw.registry,
      hw.pending_mono (hregistry ▸ .refl _) (pending?_of_takenOut hpending)⟩
  | registered hf hregistry hpending =>
    exact ⟨hw.registry.register (hw.pending _ _ hf) hregistry,
      hw.pending_mono (Registry.extends_register hregistry) (pending?_of_takenOut hpending)⟩

/-- A run keeps that a workbench replays. -/
theorem Replays.after (hw : w.Replays) (steps : List (Variables × Request)) :
    (w.after steps).Replays := by
  induction steps generalizing w with
  | nil => exact hw
  | cons step rest ih => exact ih (hw.serve step.1 step.2)

/-- A reachable workbench replays. -/
theorem Reachable.replays (h : w.Reachable) : w.Replays := by
  obtain ⟨steps, rfl⟩ := h
  exact replays_new.after steps

/-- On a sound workbench a name builds what the registry builds plainly, whatever rules are kept. -/
theorem Sound.answer_instantiate (hw : w.Sound) (vars : Variables) (name : String)
    (arguments : List Argument) :
    (w.instantiate vars name arguments).answer =
      w.registry.plain.instantiate vars name arguments :=
  hw.answer_buildRegistered vars name w.registry.optimize arguments

/-- Definitions were loaded without a failure and made the registry of a workbench again. -/
structure Reimports (w : Workbench) (loading : Registry.Loading) : Prop where
  /-- Every definition is loaded. -/
  succeeds : loading.failure = none
  /-- The factories loaded are those after the built-in rules. -/
  loaded : loading.names = w.registry.exported.map FactoryDefinition.name
  /-- All factories have the same names in the same order. -/
  names : loading.registry.names = w.registry.names
  /-- All factories are described alike. -/
  described : loading.registry.factories.map FactoryDefinition.describe =
    w.registry.factories.map FactoryDefinition.describe
  /-- Every name builds the same rules from the same arguments, or fails alike. -/
  instantiated : ∀ vars name arguments,
    ((new loading.registry).instantiate vars name arguments).answer =
      (w.instantiate vars name arguments).answer

/-- Exported rules load back: whatever was requested of a workbench that started with the built-in
rules, loading the definitions of the factories after these into the built-in rules succeeds, and
makes factories of the same names in the same order that are described alike and build the same. -/
theorem Reachable.reimports (h : w.Reachable) :
    w.Reimports (Registry.withBuiltins.load w.registry.exported) := by
  obtain ⟨added, hfactories, hload⟩ := h.replays.registry
  have hexported : w.registry.exported = added.map FactoryDefinition.describe := by
    have hlength : Builtin.list.length = Registry.withBuiltins.factories.length :=
      (List.length_map _).symm
    rw [Registry.exported, hfactories, hlength, List.drop_left]
  rw [← hexported, Registry.load_plain] at hload
  obtain ⟨hregistry, hnames, hfailure⟩ := Registry.Loading.mk.inj hload
  have hsame : (Registry.withBuiltins.load w.registry.exported).registry.factories =
      w.registry.factories := (congrArg Registry.factories hregistry :)
  have hsound : (new (Registry.withBuiltins.load w.registry.exported).registry).Sound :=
    sound_new_of_linked (linked_withBuiltins.load _)
  constructor
  case succeeds => exact hfailure
  case loaded =>
    rw [hnames, hexported, List.map_map]
    rfl
  case names => exact congrArg (List.map FactoryOf.name) hsame
  case described => exact congrArg (List.map FactoryDefinition.describe) hsame
  case instantiated =>
    intro vars name arguments
    rw [hsound.answer_instantiate, h.sound.answer_instantiate, ← hregistry]
    rfl

/-- A factory of matchers that accept cells without one text, by a call of `Yes`. -/
def notYesDefinition : FactoryDefinition where
  name := "NotYes"
  description := ""
  output := .matcher
  formals := []
  body := .tree (.call "root" "Not" [.call "matcher" "Yes" []])

/-- Resolve a definition before the factory it calls is registered, which fails, and after. A
second registration of one name fails as well. -/
def notYesRun : List (Variables × Request) :=
  [.define notYesDefinition, .define yesDefinition, .define yesDefinition, .register 0,
    .define notYesDefinition, .register 1, .register 2].map fun request => (.empty, request)

/-- Both factories that `notYesRun` registers are exported, and the second builds a rule in the
registry made of their definitions. -/
theorem reimports_notYesRun :
    let w := (new .withBuiltins).after notYesRun
    let loading := Registry.withBuiltins.load w.registry.exported
    w.Reimports loading ∧ loading.names = ["Yes", "NotYes"] ∧
      ∃ i, ((new loading.registry).instantiate .empty "NotYes" []).answer = .ok i :=
  ⟨Reachable.reimports ⟨notYesRun, rfl⟩, rfl, _, rfl⟩

end Workbench

end GridAudit
