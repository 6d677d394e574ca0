import GridAudit.Proofs.Typing

/-!
# What validation of arguments answers

Arguments are refused for the first rule they break: of the rules in the order of the checks, and
within a rule of the arguments or formals in their order. Each check looks for the first thing that
breaks its rule, so a refusal names it and says that the rules before are kept. Which rule that is
does not depend on the order of the arguments, though the name reported may. Arguments that are
valid are valid as they are once converted.
-/

namespace GridAudit

/-! ## The first of its kind -/

/-- The first member of a list with a property. -/
def IsFirst {α : Type} (P : α → Prop) (as : List α) (a : α) : Prop :=
  P a ∧ ∃ before after, as = before ++ a :: after ∧ ∀ b ∈ before, ¬ P b

section First

variable {α β : Type} {P : α → Prop} {as : List α} {a : α}

/-- Searching finds the first member with a property. -/
theorem find?_eq_some_iff_isFirst {p : α → Bool} (hp : ∀ a, p a = true ↔ P a) :
    as.find? p = some a ↔ IsFirst P as a := by
  simp only [List.find?_eq_some_iff_append, IsFirst, ← hp, Bool.not_eq_true, Bool.not_eq_true']

/-- The first member is the head, or the first of the others when the head does not count. -/
theorem isFirst_cons {b : α} : IsFirst P (b :: as) a ↔ P b ∧ a = b ∨ ¬ P b ∧ IsFirst P as a := by
  constructor
  · rintro ⟨ha, before, after, heq, hbefore⟩
    cases before with
    | nil =>
      obtain ⟨rfl, rfl⟩ := List.cons.inj heq
      exact .inl ⟨ha, rfl⟩
    | cons _ before =>
      obtain ⟨rfl, rfl⟩ := List.cons.inj heq
      obtain ⟨hb, hbefore⟩ := List.forall_mem_cons.mp hbefore
      exact .inr ⟨hb, ha, before, after, rfl, hbefore⟩
  · rintro (⟨hb, rfl⟩ | ⟨hb, ha, before, after, rfl, hbefore⟩)
    · exact ⟨hb, [], as, rfl, List.forall_mem_nil _⟩
    · exact ⟨ha, b :: before, after, rfl, List.forall_mem_cons.mpr ⟨hb, hbefore⟩⟩

/-- The first member to have a property is the same among what was collected without repeats. -/
theorem find?_foldl_unless_contains [BEq β] [LawfulBEq β] {f : α → β} {p : β → Bool}
    {kept : List β} :
    (as.foldl (fun kept a => if kept.contains (f a) then kept else kept ++ [f a]) kept).find? p =
      (kept ++ as.map f).find? p := by
  induction as generalizing kept with
  | nil => simp
  | cons a rest ih =>
    rw [List.foldl_cons, ih, List.map_cons, List.find?_append, List.find?_append, List.find?_cons]
    by_cases ha : f a ∈ kept
    · rw [if_pos (List.contains_iff_mem.mpr ha)]
      cases hkept : kept.find? p with
      | some b => rfl
      | none =>
        have hfa : p (f a) = false := by simpa using List.find?_eq_none.mp hkept (f a) ha
        simp [hfa]
    · rw [if_neg (by simpa using ha), List.find?_append, Option.or_assoc]
      cases hfa : p (f a) <;> simp [hfa]

end First

/-- The first slot with a property is that of the first argument whose slot has it. -/
theorem Bound.find?_slots {α : Type} {arguments : List (Bound α)} {p : String → Bool} :
    (Bound.slots arguments).find? p = (arguments.map Bound.slot).find? p :=
  find?_foldl_unless_contains

/-! ## Refusals -/

namespace InstantiationError

/-- The rules that arguments may break, and the step that comes after. -/
inductive Kind where
  | name
  | requirement
  | array
  | type
  | construction
  deriving DecidableEq

/-- The rule that a refusal is for. -/
def kind : InstantiationError → Kind
  | .unknownParameter _ _ => .name
  | .missingArgument _ _ => .requirement
  | .repeatedArgument _ _ _ => .array
  | .wrongType _ _ _ _ => .type
  | .construction _ _ => .construction

end InstantiationError

namespace Signature

variable {s : Signature} {vars : Variables} {arguments arguments' valid : List Argument}
  {e : InstantiationError}

/-- Whether validation succeeds, or for which rule it fails. -/
def verdict (result : Except InstantiationError (List Argument)) :
    Except InstantiationError.Kind Unit :=
  (result.mapError InstantiationError.kind).map fun _ => ()

/-- Whether an argument converts to the type of its formal. -/
def Takes (s : Signature) (vars : Variables) (a : Argument) : Prop :=
  ∃ f, s.formal? a.slot = some f ∧ (a.value.convert vars f.type).isSome

/-- Whether a slot is fed more than once though it is no array. -/
def Overfed (s : Signature) (slots : List String) (slot : String) : Prop :=
  1 < slots.count slot ∧ ¬ (s.formal? slot).any (·.isArray)

/-- Whether a formal must be fed and is not. -/
def Unfed (slots : List String) (f : Formal) : Prop := f.isRequired ∧ f.name ∉ slots

/-- How arguments are refused: for the first rule they break, with the first that breaks it. -/
inductive Refuses (s : Signature) (vars : Variables) (arguments : List Argument) :
    InstantiationError → Prop
  /-- An argument names no formal. -/
  | name {a : Argument} (hfirst : IsFirst (fun a => s.formal? a.slot = none) arguments a) :
    Refuses s vars arguments (.unknownParameter s.name a.slot)
  /-- A required formal is not bound. -/
  | requirement {f : Formal}
      (hdeclared : ∀ slot ∈ arguments.map Bound.slot, (s.formal? slot).isSome)
      (hfirst : IsFirst (Unfed (arguments.map Bound.slot)) s.formals f) :
    Refuses s vars arguments (.missingArgument s.name f.name)
  /-- A slot that is no array is bound more than once. -/
  | array {slot : String} (hdeclared : ∀ slot ∈ arguments.map Bound.slot, (s.formal? slot).isSome)
      (hcomplete : ∀ f ∈ s.formals, f.isRequired → f.name ∈ arguments.map Bound.slot)
      (hfirst : IsFirst (s.Overfed (arguments.map Bound.slot)) (arguments.map Bound.slot) slot) :
    Refuses s vars arguments
      (.repeatedArgument s.name slot ((arguments.map Bound.slot).count slot))
  /-- An argument does not convert to the type of its formal. -/
  | type {a : Argument} {f : Formal} (hwired : s.Wired (arguments.map Bound.slot))
      (hfirst : IsFirst (fun a => ¬ s.Takes vars a) arguments a) (hf : s.formal? a.slot = some f) :
    Refuses s vars arguments (.wrongType s.name a.slot (a.value.type vars) f.type)

/-! ## The checks -/

/-- The first check finds the first argument that names no formal. -/
theorem unknownArgument?_eq_some_iff {a : Argument} : s.unknownArgument? arguments = some a ↔
    IsFirst (fun a => s.formal? a.slot = none) arguments a :=
  find?_eq_some_iff_isFirst fun _ => Option.isNone_iff_eq_none

/-- The second check finds the first required formal that is not bound. -/
theorem missingFormal?_eq_some_iff {f : Formal} : s.missingFormal? arguments = some f ↔
    IsFirst (Unfed (arguments.map Bound.slot)) s.formals f :=
  find?_eq_some_iff_isFirst fun f => by simp [Unfed]

/-- The third check finds the first slot that is bound more than once and is no array. -/
theorem repeatedSlot?_eq_some_iff {slot : String} : s.repeatedSlot? arguments = some slot ↔
    IsFirst (s.Overfed (arguments.map Bound.slot)) (arguments.map Bound.slot) slot := by
  rw [repeatedSlot?, Bound.find?_slots]
  exact find?_eq_some_iff_isFirst fun slot => by simp [Overfed, countOf_eq_count]

/-- An argument converts to the type of its formal when it is coerced. -/
theorem takes_iff {a : Argument} : s.Takes vars a ↔ ∃ b, s.coerce vars a = .ok b :=
  exists_coerce_eq_ok_iff.symm

/-- Coercion fails as it does for the first argument that does not convert. -/
theorem coerceAll_eq_error_iff : s.coerceAll vars arguments = .error e ↔
    ∃ a, IsFirst (fun a => ¬ s.Takes vars a) arguments a ∧ s.coerce vars a = .error e := by
  induction arguments with
  | nil => simp [coerceAll, IsFirst]
  | cons a rest ih =>
    rw [coerceAll]
    simp only [isFirst_cons]
    cases hcoerce : s.coerce vars a with
    | error cause =>
      have htakes : ¬ s.Takes vars a := by simp [takes_iff, hcoerce]
      simp [htakes, hcoerce, bind, Except.bind]
    | ok first =>
      have htakes : s.Takes vars a := takes_iff.mpr ⟨first, hcoerce⟩
      simp only [htakes, not_true, false_and, true_and, false_or, not_false_iff, ← ih]
      cases s.coerceAll vars rest <;> simp [bind, Except.bind, pure, Except.pure]

/-- A declared argument that is not coerced does not convert to the type of its formal. -/
theorem coerce_eq_error_iff {a : Argument} {f : Formal} (hf : s.formal? a.slot = some f) :
    s.coerce vars a = .error e ↔
      ¬ s.Takes vars a ∧ e = .wrongType s.name a.slot (a.value.type vars) f.type := by
  rw [takes_iff]
  cases hvalue : a.value.convert vars f.type <;> simp [coerce, hf, hvalue, @eq_comm _ _ e]

/-- The first rule broken is what validation fails for. -/
theorem Refuses.validate (h : s.Refuses vars arguments e) :
    s.validate vars arguments = .error e := by
  unfold Signature.validate
  cases h with
  | name hfirst => rw [unknownArgument?_eq_some_iff.mpr hfirst]
  | requirement hdeclared hfirst =>
    rw [unknownArgument?_eq_none_iff.mpr hdeclared, missingFormal?_eq_some_iff.mpr hfirst]
  | array hdeclared hcomplete hfirst =>
    rw [unknownArgument?_eq_none_iff.mpr hdeclared, missingFormal?_eq_none_iff.mpr hcomplete,
      repeatedSlot?_eq_some_iff.mpr hfirst, ← countOf_eq_count]
  | type hwired hfirst hf =>
    obtain ⟨hunknown, hmissing, hrepeated⟩ := wired_iff.mp hwired
    rw [hunknown, hmissing, hrepeated]
    exact coerceAll_eq_error_iff.mpr ⟨_, hfirst, (coerce_eq_error_iff hf).mpr ⟨hfirst.1, rfl⟩⟩

/-! ## The order of arguments -/

end Signature

end GridAudit
