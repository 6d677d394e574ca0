import GridAudit.Proofs.Linked

/-!
# Loading commits the longest prefix that can be loaded

A list of definitions is loaded one after another, each into the registry that those before it left,
up to the first that does not resolve or whose factory is refused. What was registered until then
stays, behind the factories that were there before, and nothing of the rest is. So a list is loaded
like its parts one after the other, and a prefix of it loads without a failure when it is no longer
than what is registered.
-/

namespace GridAudit

/-- The factory that a definition describes has its name. -/
theorem FactoryDefinition.name_of_resolve {r : Registry} {d : FactoryDefinition} {f : Factory}
    (h : d.resolve r = .ok f) : f.name = d.name := by
  unfold resolve at h
  split at h
  · obtain rfl := Except.ok.inj h
    rfl
  · obtain ⟨root, -, h⟩ := bind_eq_ok.mp h
    obtain rfl := Except.ok.inj h
    rfl

namespace Registry

/-- A registry with more factories behind those it has. -/
def extend (r : Registry) (fs : List Factory) : Registry :=
  { r with factories := r.factories ++ fs }

/-- Why a definition cannot be loaded: it does not resolve, or its factory is refused. -/
inductive Rejects (r : Registry) (d : FactoryDefinition) : RegistryError → Prop
  | unresolved {e : RegistryError} (h : d.resolve r = .error e) : r.Rejects d e
  | refused {f : Factory} {e : RegistryError} (hf : d.resolve r = .ok f)
      (h : r.refusal? f = some e) : r.Rejects d e

/-- Definitions that resolve to factories, none of which is refused, once those before them are
registered. -/
inductive Admits : Registry → List FactoryDefinition → List Factory → Prop
  | nil {r : Registry} : r.Admits [] []
  | cons {r : Registry} {d : FactoryDefinition} {f : Factory} {ds : List FactoryDefinition}
      {fs : List Factory} (hf : d.resolve r = .ok f) (hfree : r.refusal? f = none)
      (hrest : (r.extend [f]).Admits ds fs) : r.Admits (d :: ds) (f :: fs)

/-- What comes of loading definitions: all their factories are registered behind the others, or
those before the first definition that is rejected. -/
inductive Commits (r : Registry) (ds : List FactoryDefinition) : Loading → Prop
  | whole {fs : List Factory} (h : r.Admits ds fs) :
      r.Commits ds ⟨r.extend fs, fs.map FactoryOf.name, none⟩
  | upTo {before after : List FactoryDefinition} {d : FactoryDefinition} {fs : List Factory}
      {e : RegistryError} (hds : ds = before ++ d :: after) (h : r.Admits before fs)
      (hd : (r.extend fs).Rejects d e) :
      r.Commits ds ⟨r.extend fs, fs.map FactoryOf.name, some e⟩

/-- Go on loading, unless it failed. -/
def Loading.andLoad (loading : Loading) (ds : List FactoryDefinition) : Loading :=
  match loading.failure with
  | some _ => loading
  | none =>
    let more := loading.registry.load ds
    { more with names := loading.names ++ more.names }

section

variable {r r' : Registry} {d : FactoryDefinition} {ds es : List FactoryDefinition}
  {fs : List Factory} {e : RegistryError}

/-- No more factories change nothing. -/
theorem extend_nil (r : Registry) : r.extend [] = r := by
  rw [extend, List.append_nil]

/-- More factories come behind more factories. -/
theorem extend_extend (r : Registry) (fs gs : List Factory) :
    (r.extend fs).extend gs = r.extend (fs ++ gs) := by
  simp only [extend, List.append_assoc]

/-- A definition is registered with the factory it resolves to when this is not refused. -/
theorem define_eq_ok_iff : r.define d = .ok r' ↔
    ∃ f, d.resolve r = .ok f ∧ r.refusal? f = none ∧ r.extend [f] = r' := by
  rw [define, bind_eq_ok]
  refine exists_congr fun f => and_congr_right fun _ => ?_
  unfold register
  cases r.refusal? f <;> simp [extend]

/-- A definition is not registered when it is rejected. -/
theorem define_eq_error_iff : r.define d = .error e ↔ r.Rejects d e := by
  constructor
  · intro h
    cases hf : d.resolve r with
    | error e' =>
      obtain rfl : e' = e := by simpa [define, hf, bind, Except.bind] using h
      exact .unresolved hf
    | ok f =>
      cases hrefusal : r.refusal? f with
      | none => simp [define, hf, bind, Except.bind, register, hrefusal] at h
      | some e' =>
        obtain rfl : e' = e := by simpa [define, hf, bind, Except.bind, register, hrefusal] using h
        exact .refused hf hrefusal
  · rintro (h | ⟨hf, h⟩)
    · simp only [define, h]
      rfl
    · simp only [define, hf, register, bind, Except.bind, h]

/-- Definitions that may be registered in turn are loaded as a whole. -/
theorem Admits.load_eq (h : r.Admits ds fs) :
    r.load ds = ⟨r.extend fs, fs.map FactoryOf.name, none⟩ := by
  induction h with
  | nil => rw [extend_nil, load, List.map_nil]
  | @cons r d f ds fs hf hfree _ ih =>
    rw [load, define_eq_ok_iff.mpr ⟨f, hf, hfree, rfl⟩]
    simp only [ih, extend_extend, List.singleton_append, List.map_cons,
      FactoryDefinition.name_of_resolve hf]

/-- Definitions are loaded like a first part of them and, unless that fails, the rest. -/
theorem load_append (r : Registry) (ds es : List FactoryDefinition) :
    r.load (ds ++ es) = (r.load ds).andLoad es := by
  induction ds generalizing r with
  | nil => simp [load, Loading.andLoad]
  | cons d rest ih =>
    simp only [List.cons_append, load]
    cases r.define d with
    | error e => rfl
    | ok r' =>
      simp only [ih]
      obtain ⟨registry, names, failure⟩ := r'.load rest
      cases failure <;> rfl

/-- A first part of the definitions is loaded without a failure when as many factories are
registered for them all. -/
theorem failure_load_eq_none_iff (r : Registry) (ds es : List FactoryDefinition) :
    (r.load ds).failure = none ↔ ds.length ≤ (r.load (ds ++ es)).names.length := by
  induction ds generalizing r with
  | nil => simp [load]
  | cons d rest ih =>
    simp only [List.cons_append, load]
    cases r.define d with
    | error e => simp
    | ok r' => simp [ih]

/-- A definition that is registered comes before what is committed then. -/
theorem Commits.cons {f : Factory} {loading : Loading} (hf : d.resolve r = .ok f)
    (hfree : r.refusal? f = none) (h : (r.extend [f]).Commits ds loading) :
    r.Commits (d :: ds) { loading with names := d.name :: loading.names } := by
  rw [← FactoryDefinition.name_of_resolve hf]
  cases h with
  | whole h =>
    rw [extend_extend]
    exact .whole (.cons hf hfree h)
  | upTo hds h hd =>
    rw [extend_extend] at hd ⊢
    exact .upTo (congrArg (d :: ·) hds) (.cons hf hfree h) hd

/-- A definition that is rejected comes before nothing that is committed. -/
theorem Rejects.commits (h : r.Rejects d e) (ds : List FactoryDefinition) :
    r.Commits (d :: ds) ⟨r, [], some e⟩ := by
  have hcut : r.Commits (d :: ds) ⟨r.extend [], [], some e⟩ :=
    .upTo (rfl : d :: ds = [] ++ d :: ds) .nil (by rwa [extend_nil])
  rwa [extend_nil] at hcut

/-- Definitions are loaded up to the first that is rejected. -/
theorem commits_load (r : Registry) (ds : List FactoryDefinition) : r.Commits ds (r.load ds) := by
  induction ds generalizing r with
  | nil =>
    have hwhole : r.Commits [] ⟨r.extend [], [], none⟩ := .whole .nil
    rwa [extend_nil] at hwhole
  | cons d rest ih =>
    rw [load]
    cases hd : r.define d with
    | error e => exact (define_eq_error_iff.mp hd).commits rest
    | ok r' =>
      obtain ⟨f, hf, hfree, rfl⟩ := define_eq_ok_iff.mp hd
      exact (ih (r.extend [f])).cons hf hfree

/-- What is committed is what is loaded. -/
theorem Commits.load_eq {loading : Loading} (h : r.Commits ds loading) : r.load ds = loading := by
  cases h with
  | whole h => exact h.load_eq
  | upTo hds h hd =>
    rw [hds, load_append, h.load_eq]
    simp only [Loading.andLoad, load, define_eq_error_iff.mpr hd, List.append_nil]

end

/-! ## Texts -/

/-- Loading into a registry commits the longest prefix of a list of definitions that can be loaded,
and nothing else. -/
structure LoadsPrefix (r : Registry) : Prop where
  /-- A text that holds no definitions changes nothing. -/
  unread : ∀ text fault, FactoryDefinition.parseList text = .error fault →
    r.loadText text = ⟨r, [], some (.definition fault)⟩
  /-- From any other text the definitions it holds are loaded. -/
  read : ∀ text ds, FactoryDefinition.parseList text = .ok ds → r.loadText text = r.load ds
  /-- Definitions are loaded up to the first that is rejected: the factories of those before it come
  behind the others, in order, and nothing else changes. -/
  committed : ∀ ds loading, r.load ds = loading ↔ r.Commits ds loading
  /-- What is committed is the longest prefix that loads without a failure. -/
  longest : ∀ ds es, (r.load ds).failure = none ↔ ds.length ≤ (r.load (ds ++ es)).names.length
  /-- A list is loaded like a first part of it and, unless that fails, the rest. -/
  appended : ∀ ds es, r.load (ds ++ es) = (r.load ds).andLoad es
  /-- What is found by name is found as before. -/
  kept : ∀ ds, r.Extends (r.load ds).registry

/-- Whatever is loaded into a registry, the longest prefix that can be loaded is committed. -/
theorem loadsPrefix_loadText (r : Registry) : r.LoadsPrefix := by
  constructor
  case unread =>
    intro text fault h
    simp only [loadText, h]
  case read =>
    intro text ds h
    simp only [loadText, h]
  case committed =>
    intro ds loading
    exact ⟨fun h => h ▸ r.commits_load ds, Commits.load_eq⟩
  case longest => exact r.failure_load_eq_none_iff
  case appended => exact r.load_append
  case kept =>
    exact fun ds => load_induction (.refl r) ds fun _ _ _ h hd => h.trans (extends_define hd)

/-- The factory of a definition that is listed twice is registered once. -/
example : (withBuiltins.load
    (List.replicate 2 ⟨"Twin", "", .matcher, [], .native "builtin.not"⟩)).names = ["Twin"] := rfl

end Registry

end GridAudit
