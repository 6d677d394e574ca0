import GridAudit.Factory.Instantiate
import GridAudit.Proofs.Results

/-!
# Valid arguments

Valid arguments are the given ones converted one by one, so what every conversion keeps holds of all
of them. What is bound to a slot is among what was given. A native body is built of the valid
arguments, and has to be of the kind that its factory declares.
-/

namespace GridAudit

namespace Bound

variable {slot : String} {arguments : List Argument}

/-- What is bound to a slot is the value of an argument. -/
theorem exists_of_mem_valuesOf {p : Param} (h : p ∈ valuesOf slot arguments) :
    ∃ a ∈ arguments, a.value = p := by
  obtain ⟨a, ha, rfl⟩ := List.mem_map.mp h
  exact ⟨a, (List.mem_filter.mp ha).1, rfl⟩

/-- What holds of the values of arguments holds of those that are passed on to another slot. -/
theorem forall_value_of_valuesOf {P : Param → Prop} (h : ∀ a ∈ arguments, P a.value)
    (other : String) :
    ∀ b ∈ (valuesOf slot arguments).map fun value => (⟨other, value⟩ : Argument), P b.value := by
  intro b hb
  obtain ⟨p, hp, rfl⟩ := List.mem_map.mp hb
  obtain ⟨a, ha, rfl⟩ := exists_of_mem_valuesOf hp
  exact h a ha

/-- What is bound to a slot corresponds value by value where the arguments correspond and keep their
slots. -/
theorem rel_valuesOf {R : Argument → Argument → Prop} {arguments' : List Argument}
    (hslot : ∀ a a', R a a' → a.slot = a'.slot) (h : List.Forall₂ R arguments arguments')
    (slot : String) :
    List.Forall₂ (fun p p' => R ⟨slot, p⟩ ⟨slot, p'⟩) (valuesOf slot arguments)
      (valuesOf slot arguments') := by
  have hbound : List.Forall₂ R (arguments.filter (·.slot = slot))
      (arguments'.filter (·.slot = slot)) :=
    List.rel_filter (fun a a' ha => by simp only [hslot a a' ha]) h
  have hslots : ∀ a ∈ arguments.filter (·.slot = slot), a.slot = slot := by simp
  rw [valuesOf, valuesOf, List.forall₂_map_left_iff, List.forall₂_map_right_iff]
  refine ((List.forall₂_and_left _ _).mpr ⟨hslots, hbound⟩).imp ?_
  rintro ⟨first, p⟩ ⟨second, p'⟩ ⟨rfl, ha⟩
  obtain rfl : first = second := hslot _ _ ha
  exact ha

end Bound

namespace Builtin

variable {slot : String} {arguments : List Argument}

/-- The first operand of a slot comes first among its operands. -/
theorem optionalOperand_eq_head? (arguments : List Argument) (slot : String) :
    optionalOperand arguments slot = (operandsOf arguments slot).head? := by
  rw [operandsOf, Bound.valuesOf, List.head?_map, List.head?_map, List.head?_filter, Option.map_map]
  rfl

/-- The operand of a slot is that of its first value. -/
theorem operandOf_of_valuesOf {p : Param} {rest : List Param}
    (h : Bound.valuesOf slot arguments = p :: rest) : operandOf arguments slot = .ok p.operand := by
  rw [operandOf, optionalOperand_eq_head?, operandsOf, h]
  rfl

end Builtin

namespace Signature

variable {s : Signature} {vars : Variables} {arguments valid : List Argument}

/-- A coerced argument keeps its slot and has its value converted to the type of its formal. -/
theorem coerce_eq_ok {a b : Argument} :
    s.coerce vars a = .ok b ↔
      ∃ f, s.formal? a.slot = some f ∧ a.value.convert vars f.type = some b.value ∧
        a.slot = b.slot := by
  obtain ⟨slot, value⟩ := b
  unfold coerce
  cases s.formal? a.slot with
  | none => simp
  | some f => cases hvalue : a.value.convert vars f.type <;> simp [hvalue, and_comm]

/-- A coerced argument keeps its slot and has its value converted to some type. -/
theorem exists_convert_of_coerce {a b : Argument} (h : s.coerce vars a = .ok b) :
    ∃ type value, a.value.convert vars type = some value ∧ ⟨a.slot, value⟩ = b := by
  obtain ⟨f, -, hvalue, hslot⟩ := coerce_eq_ok.mp h
  exact ⟨f.type, b.value, hvalue, by rw [hslot]⟩

/-- Arguments are coerced one by one. -/
theorem coerceAll_eq_ok_iff : s.coerceAll vars arguments = .ok valid ↔
    List.Forall₂ (fun a b => s.coerce vars a = .ok b) arguments valid := by
  induction arguments generalizing valid with
  | nil => simp [coerceAll, eq_comm]
  | cons a rest ih =>
    rw [List.forall₂_cons_left_iff]
    constructor
    · intro h
      obtain ⟨first, more, hfirst, hmore, rfl⟩ := bind_bind_eq_ok.mp h
      exact ⟨first, more, hfirst, ih.mp hmore, rfl⟩
    · rintro ⟨first, more, hfirst, hmore, rfl⟩
      rw [coerceAll, hfirst, ih.mpr hmore]
      rfl

/-- Valid arguments are the converted ones. -/
theorem coerceAll_of_validate (h : s.validate vars arguments = .ok valid) :
    s.coerceAll vars arguments = .ok valid := by
  unfold validate at h
  split at h
  · contradiction
  · split at h
    · contradiction
    · split at h
      · contradiction
      · exact h

/-- What is bound to a formal is converted to its type, value by value. -/
theorem forall₂_valuesOf (h : s.validate vars arguments = .ok valid) {slot : String} {f : Formal}
    (hf : s.formal? slot = some f) :
    List.Forall₂ (fun p q => p.convert vars f.type = some q) (Bound.valuesOf slot arguments)
      (Bound.valuesOf slot valid) := by
  have hslot (a b : Argument) (hab : s.coerce vars a = .ok b) : a.slot = b.slot := by
    obtain ⟨_, -, -, hslot⟩ := coerce_eq_ok.mp hab
    exact hslot
  have hcoerced := coerceAll_eq_ok_iff.mp (coerceAll_of_validate h)
  refine (Bound.rel_valuesOf hslot hcoerced slot).imp fun p q hpq => ?_
  obtain ⟨g, hg, hvalue, -⟩ := coerce_eq_ok.mp hpq
  obtain rfl := Option.some.inj (hf.symm.trans hg)
  exact hvalue

/-- What conversion keeps holds of valid arguments when it held of those given. -/
theorem forall_value_of_validate {P : Param → Prop}
    (hconvert : ∀ p q type, P p → p.convert vars type = some q → P q)
    (harguments : ∀ a ∈ arguments, P a.value) (h : s.validate vars arguments = .ok valid) :
    ∀ a ∈ valid, P a.value := by
  have hcoerced := coerceAll_eq_ok_iff.mp (coerceAll_of_validate h)
  clear h
  induction hcoerced with
  | nil => exact List.forall_mem_nil _
  | cons hfirst _ ih =>
    obtain ⟨ha, hrest⟩ := List.forall_mem_cons.mp harguments
    obtain ⟨type, value, hvalue, rfl⟩ := exists_convert_of_coerce hfirst
    exact List.forall_mem_cons.mpr ⟨hconvert _ _ type ha hvalue, ih hrest⟩

/-- What a factory builds with a native body is the rule of a body of the declared kind. -/
theorem buildNative_eq_ok {env : Environment} {id : String} {i : Instance} :
    s.buildNative env id arguments = .ok i ↔
      ∃ native body, env.native? id = some native ∧ native.build arguments = .ok body ∧
        body.kind = s.output ∧ body.toInstance s.name arguments = i := by
  unfold buildNative
  cases env.native? id with
  | none => simp
  | some native =>
    cases hbody : native.build arguments with
    | error => simp [hbody]
    | ok body => by_cases hkind : body.kind = s.output <;> simp [hbody, hkind]

end Signature

end GridAudit
