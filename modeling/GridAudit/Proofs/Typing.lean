import GridAudit.Factory.Checker
import GridAudit.Proofs.Folding

/-!
# Types of arguments and of what nodes yield

What validation and evaluation say about types, said apart from how they go about it. Arguments are
accepted when they are wired to the formals and each converts to the type of its formal; a factory
goes on with arguments that have these types. A node that yields anything yields values of the type
it presents to the node above it. What the tree checker asks of slots and types is then compared
with what a call asks of the values it gets.
-/

namespace GridAudit

/-! ## Plain values -/

namespace Constant

/-- A plain value is of a plain type. -/
theorem isPlain_type (c : Constant) : c.type.isPlain := by
  cases c <;> rfl

/-- A plain value converts to its own type as it is. -/
theorem convert_type (c : Constant) : c.convert c.type = some c := by
  cases c <;> rfl

/-- A converted plain value is of the type it was converted to. -/
theorem type_of_convert {c d : Constant} {type : ValueType} (h : c.convert type = some d) :
    d.type = type := by
  cases type with
  | string =>
    obtain rfl := Option.some.inj h
    rfl
  | int | real | char =>
    obtain ⟨_, -, rfl⟩ := Option.map_eq_some_iff.mp h
    rfl
  | matcher | replacer => contradiction

end Constant

/-- A type of rules is not plain. -/
theorem RuleKind.isPlain_type (k : RuleKind) : k.type.isPlain = false := by
  cases k <;> rfl

/-! ## Arguments -/

namespace Param

/-- The types of an argument. Variables and cells are read when a rule runs: a cell is of every
plain type, and a variable of those that its value converts to. -/
inductive HasType (vars : Variables) : Param → ValueType → Prop
  | constant (value : Constant) : HasType vars (.constant value) value.type
  | variable {v : Variable} {type : ValueType} (hplain : type.isPlain)
      (h : ((vars.get v).convert type).isSome) : HasType vars (.variable v) type
  | cell {target : CellRange} {type : ValueType} (hplain : type.isPlain) :
    HasType vars (.cell target) type
  | matcher (rule : Matcher) : HasType vars (.matcher rule) .matcher
  | replacer (rule : Replacer) : HasType vars (.replacer rule) .replacer

variable {vars : Variables} {p q : Param} {type : ValueType}

/-- Conversion to a plain type is conversion for a slot of plain values. -/
theorem convert_of_isPlain (hplain : type.isPlain) :
    p.convert vars type = p.convertPlain vars type := by
  cases type <;> first | rfl | contradiction

/-- Anything is a replacer. -/
theorem isSome_convert_replacer (vars : Variables) (p : Param) :
    (p.convert vars .replacer).isSome := rfl

/-- Only a matcher is a matcher. -/
theorem isSome_convert_matcher : (p.convert vars .matcher).isSome ↔ ∃ rule, p = .matcher rule := by
  cases p <;> simp [convert]

/-- A rule converts to no plain type. -/
theorem convert_toParam_of_isPlain (i : Instance) (hplain : type.isPlain) :
    i.toParam.convert vars type = none := by
  rw [convert_of_isPlain hplain]
  cases i <;> rfl

/-- A converted argument has the type it was converted to. -/
theorem hasType_of_convert (h : p.convert vars type = some q) : q.HasType vars type := by
  have hplain (hplain : type.isPlain) (h : p.convertPlain vars type = some q) :
      q.HasType vars type := by
    cases p with
    | constant value =>
      obtain ⟨c, hc, rfl⟩ := Option.map_eq_some_iff.mp h
      obtain rfl := Constant.type_of_convert hc
      exact .constant c
    | «variable» v =>
      obtain ⟨hv, h⟩ := Option.ite_none_right_eq_some.mp h
      obtain rfl := Option.some.inj h
      exact .variable hplain hv
    | cell target =>
      obtain rfl := Option.some.inj h
      exact .cell hplain
    | matcher | replacer => contradiction
  cases type with
  | string | int | real | char => exact hplain rfl h
  | matcher =>
    obtain ⟨rule, rfl⟩ := isSome_convert_matcher.mp (h ▸ rfl : (p.convert vars .matcher).isSome)
    obtain rfl := Option.some.inj h
    exact .matcher rule
  | replacer =>
    obtain rfl := Option.some.inj h
    exact .replacer _

/-- A rule has the type of its kind. -/
theorem hasType_toParam (vars : Variables) (i : Instance) : i.toParam.HasType vars i.kind.type := by
  cases i with
  | matcher rule => exact .matcher rule
  | replacer rule => exact .replacer rule

namespace HasType

/-- An argument converts to the types it has, as it is. -/
theorem convert_eq (h : p.HasType vars type) : p.convert vars type = some p := by
  cases h with
  | constant value =>
    rw [convert_of_isPlain value.isPlain_type, convertPlain, value.convert_type, Option.map_some]
  | «variable» hplain h => rw [convert_of_isPlain hplain, convertPlain, if_pos h]
  | cell hplain => rw [convert_of_isPlain hplain, convertPlain]
  | matcher | replacer => rfl

/-- An argument converts to the types it has. -/
theorem isSome_convert (h : p.HasType vars type) : (p.convert vars type).isSome :=
  Option.isSome_iff_exists.mpr ⟨p, h.convert_eq⟩

/-- An argument of a plain type converts to text. -/
theorem isSome_convert_string (h : p.HasType vars type) (hplain : type.isPlain) :
    (p.convert vars .string).isSome := by
  cases h with
  | constant | «variable» | cell => rfl
  | matcher | replacer => contradiction

/-- An argument of a plain type is no rule. -/
theorem convert_matcher_eq_none (h : p.HasType vars type) (hne : type ≠ .matcher) :
    p.convert vars .matcher = none := by
  cases h with
  | constant | «variable» | cell | replacer => rfl
  | matcher => contradiction

/-- An argument of a type of rules converts to no plain type. -/
theorem convert_eq_none_of_isPlain (h : p.HasType vars type) (hrule : type.isPlain = false)
    {type' : ValueType} (hplain : type'.isPlain) : p.convert vars type' = none := by
  cases h with
  | constant value => simp [value.isPlain_type] at hrule
  | «variable» htype | cell htype => simp [htype] at hrule
  | matcher rule => exact convert_toParam_of_isPlain (.matcher rule) hplain
  | replacer rule => exact convert_toParam_of_isPlain (.replacer rule) hplain

end HasType

end Param

/-! ## Wiring -/

/-- The slots of arguments are those of its members. -/
theorem Bound.mem_slots {α : Type} {arguments : List (Bound α)} {slot : String} :
    slot ∈ Bound.slots arguments ↔ slot ∈ arguments.map Bound.slot :=
  (mem_foldl_unless_contains (f := Bound.slot)).trans (by simp)

namespace Signature

variable {s : Signature} {vars : Variables} {arguments valid : List Argument}

/-- The formal found under a name is declared, with that name. -/
theorem name_of_formal? {name : String} {f : Formal} (h : s.formal? name = some f) :
    f.name = name := by
  simpa using List.find?_some h

/-- Slots that may be fed together: each is a formal, only arrays are fed more than once, and every
required formal is fed. -/
structure Wired (s : Signature) (slots : List String) : Prop where
  declared : ∀ slot ∈ slots, (s.formal? slot).isSome
  single : ∀ slot, 1 < slots.count slot → (s.formal? slot).any (·.isArray)
  complete : ∀ f ∈ s.formals, f.isRequired → f.name ∈ slots

/-- How often a slot is named. -/
theorem countOf_eq_count (arguments : List Argument) (slot : String) :
    countOf arguments slot = (arguments.map Bound.slot).count slot := by
  simp only [countOf, Bound.valuesOf, List.length_map, ← List.countP_eq_length_filter,
    List.count_eq_countP, List.countP_map]
  rfl

/-- Coerced arguments have their slots, and the types of their formals. -/
theorem typed_of_coerceAll (h : s.coerceAll vars arguments = .ok valid) :
    valid.map Bound.slot = arguments.map Bound.slot ∧
      ∀ a ∈ valid, ∃ f, s.formal? a.slot = some f ∧ a.value.HasType vars f.type := by
  induction coerceAll_eq_ok_iff.mp h with
  | nil => exact ⟨rfl, List.forall_mem_nil _⟩
  | cons hfirst hmore ih =>
    obtain ⟨hslots, htyped⟩ := ih (coerceAll_eq_ok_iff.mpr hmore)
    obtain ⟨f, hf, hvalue, hslot⟩ := coerce_eq_ok.mp hfirst
    constructor
    · rw [List.map_cons, List.map_cons, hslots, hslot]
    · exact List.forall_mem_cons.mpr
        ⟨⟨f, hslot ▸ hf, Param.hasType_of_convert hvalue⟩, htyped⟩

/-- An argument is coerced when it converts to the type of its formal. -/
theorem exists_coerce_eq_ok_iff {a : Argument} : (∃ b, s.coerce vars a = .ok b) ↔
    ∃ f, s.formal? a.slot = some f ∧ (a.value.convert vars f.type).isSome := by
  constructor
  · rintro ⟨b, hb⟩
    obtain ⟨f, hf, hvalue, -⟩ := coerce_eq_ok.mp hb
    exact ⟨f, hf, hvalue ▸ rfl⟩
  · rintro ⟨f, hf, hvalue⟩
    obtain ⟨value, hvalue⟩ := Option.isSome_iff_exists.mp hvalue
    exact ⟨⟨a.slot, value⟩, coerce_eq_ok.mpr ⟨f, hf, hvalue, rfl⟩⟩

/-- Arguments are coerced when each converts to the type of its formal. -/
theorem exists_coerceAll_eq_ok_iff :
    (∃ valid, s.coerceAll vars arguments = .ok valid) ↔
      ∀ a ∈ arguments, ∃ f, s.formal? a.slot = some f ∧ (a.value.convert vars f.type).isSome := by
  simp only [coerceAll_eq_ok_iff, ← exists_coerce_eq_ok_iff]
  induction arguments with
  | nil => simp
  | cons a rest ih =>
    rw [List.forall_mem_cons, ← ih]
    simp only [List.forall₂_cons_left_iff]
    constructor
    · rintro ⟨_, first, more, hfirst, hmore, rfl⟩
      exact ⟨⟨first, hfirst⟩, more, hmore⟩
    · rintro ⟨⟨first, hfirst⟩, more, hmore⟩
      exact ⟨first :: more, first, more, hfirst, hmore, rfl⟩

/-- The first check passes when every slot is a formal. -/
theorem unknownArgument?_eq_none_iff : s.unknownArgument? arguments = none ↔
    ∀ slot ∈ arguments.map Bound.slot, (s.formal? slot).isSome := by
  simp [unknownArgument?, Option.isSome_iff_ne_none]

/-- The second check passes when every required formal is fed. -/
theorem missingFormal?_eq_none_iff : s.missingFormal? arguments = none ↔
    ∀ f ∈ s.formals, f.isRequired → f.name ∈ arguments.map Bound.slot := by
  simp [missingFormal?]

/-- The third check passes when only arrays are fed more than once. -/
theorem repeatedSlot?_eq_none_iff : s.repeatedSlot? arguments = none ↔
    ∀ slot, 1 < (arguments.map Bound.slot).count slot → (s.formal? slot).any (·.isArray) := by
  rw [repeatedSlot?, List.find?_eq_none]
  constructor
  · intro h slot hcount
    have hslot := Bound.mem_slots.mpr (List.count_pos_iff.mp (Nat.lt_of_succ_lt hcount))
    rw [← countOf_eq_count] at hcount
    simpa [hcount] using h slot hslot
  · intro h slot _
    simpa [countOf_eq_count] using h slot

/-- What the checks before coercion ask of arguments is that their slots are wired. -/
theorem wired_iff :
    s.Wired (arguments.map Bound.slot) ↔ s.unknownArgument? arguments = none ∧
      s.missingFormal? arguments = none ∧ s.repeatedSlot? arguments = none := by
  rw [unknownArgument?_eq_none_iff, missingFormal?_eq_none_iff, repeatedSlot?_eq_none_iff]
  constructor
  · intro h
    exact ⟨h.declared, h.complete, h.single⟩
  · rintro ⟨hdeclared, hcomplete, hsingle⟩
    exact ⟨hdeclared, hsingle, hcomplete⟩

/-- Valid arguments are the coerced ones, where the slots of those given are wired. -/
theorem validate_eq_ok :
    s.validate vars arguments = .ok valid ↔
      s.Wired (arguments.map Bound.slot) ∧ s.coerceAll vars arguments = .ok valid := by
  rw [wired_iff]
  unfold validate
  cases s.unknownArgument? arguments <;> cases s.missingFormal? arguments <;>
    cases s.repeatedSlot? arguments <;> simp

/-- Which arguments are valid, and what they are converted to, depends on the formals alone. -/
theorem validate_eq_ok_congr {s' : Signature} (h : s.formals = s'.formals) :
    s.validate vars arguments = .ok valid ↔ s'.validate vars arguments = .ok valid := by
  have hformal (name : String) : s.formal? name = s'.formal? name := by
    rw [formal?, h, formal?]
  have hwired (slots : List String) : s.Wired slots ↔ s'.Wired slots := by
    constructor
    · rintro ⟨hdeclared, hsingle, hcomplete⟩
      simp only [hformal, h] at hdeclared hsingle hcomplete
      exact ⟨hdeclared, hsingle, hcomplete⟩
    · rintro ⟨hdeclared, hsingle, hcomplete⟩
      simp only [← hformal, ← h] at hdeclared hsingle hcomplete
      exact ⟨hdeclared, hsingle, hcomplete⟩
  simp only [validate_eq_ok, hwired, coerceAll_eq_ok_iff, coerce_eq_ok, hformal]

/-- Arguments are valid when their slots are wired and each converts to the type of its formal. -/
theorem exists_validate_eq_ok_iff :
    (∃ valid, s.validate vars arguments = .ok valid) ↔ s.Wired (arguments.map Bound.slot) ∧
      ∀ a ∈ arguments, ∃ f, s.formal? a.slot = some f ∧ (a.value.convert vars f.type).isSome := by
  simp only [validate_eq_ok, exists_and_left, exists_coerceAll_eq_ok_iff]

/-- Arguments as a factory goes on with them: their slots are wired, and each has the type of its
formal. -/
structure Typed (s : Signature) (vars : Variables) (arguments : List Argument) : Prop where
  wired : s.Wired (arguments.map Bound.slot)
  hasType : ∀ a ∈ arguments, ∃ f, s.formal? a.slot = some f ∧ a.value.HasType vars f.type

/-- Valid arguments are typed. -/
theorem typed_of_validate (h : s.validate vars arguments = .ok valid) : s.Typed vars valid := by
  obtain ⟨hwired, hcoerced⟩ := validate_eq_ok.mp h
  obtain ⟨hslots, htyped⟩ := typed_of_coerceAll hcoerced
  exact ⟨hslots ▸ hwired, htyped⟩

/-- Arguments that have the types of their formals are coerced as they are. -/
theorem coerceAll_of_hasType
    (h : ∀ a ∈ arguments, ∃ f, s.formal? a.slot = some f ∧ a.value.HasType vars f.type) :
    s.coerceAll vars arguments = .ok arguments := by
  refine coerceAll_eq_ok_iff.mpr (List.forall₂_same.mpr fun a ha => ?_)
  obtain ⟨f, hf, htype⟩ := h a ha
  exact coerce_eq_ok.mpr ⟨f, hf, htype.convert_eq, rfl⟩

/-- Typed arguments are valid as they are. -/
theorem Typed.validate (h : s.Typed vars arguments) : s.validate vars arguments = .ok arguments :=
  validate_eq_ok.mpr ⟨h.wired, coerceAll_of_hasType h.hasType⟩

namespace Typed

variable {argument : String} {f : Formal}

/-- Every value of an argument has the type of its formal. -/
theorem hasType_of_mem_valuesOf (h : s.Typed vars arguments) (hf : s.formal? argument = some f) :
    ∀ p ∈ Bound.valuesOf argument arguments, p.HasType vars f.type := by
  intro p hp
  obtain ⟨a, ha, rfl⟩ := List.mem_map.mp hp
  obtain ⟨ha, hslot⟩ := List.mem_filter.mp ha
  obtain ⟨g, hg, htype⟩ := h.hasType a ha
  rw [of_decide_eq_true hslot, hf] at hg
  exact Option.some.inj hg ▸ htype

/-- An argument that must be given has a value. -/
theorem valuesOf_ne_nil (h : s.Typed vars arguments) (hf : s.formal? argument = some f)
    (hrequired : f.isRequired) : Bound.valuesOf argument arguments ≠ [] := by
  have hmem := h.wired.complete f (List.mem_of_find?_eq_some hf) hrequired
  rw [name_of_formal? hf] at hmem
  have hcount := List.count_pos_iff.mpr hmem
  rw [← countOf_eq_count] at hcount
  exact List.ne_nil_of_length_pos hcount

/-- An argument that must be given and takes one value has one. -/
theorem length_valuesOf (h : s.Typed vars arguments) (hf : s.formal? argument = some f)
    (hrequired : f.isRequired) (hsingle : f.isArray = false) :
    (Bound.valuesOf argument arguments).length = 1 := by
  have hpos := List.length_pos_iff.mpr (h.valuesOf_ne_nil hf hrequired)
  have hle : ¬ 1 < countOf arguments argument := by
    intro hcount
    rw [countOf_eq_count] at hcount
    simpa [hf, hsingle] using h.wired.single argument hcount
  unfold countOf at hle
  omega

/-- An argument that must be given and takes one value has just that. -/
theorem exists_valuesOf_eq (h : s.Typed vars arguments) (hf : s.formal? argument = some f)
    (hrequired : f.isRequired) (hsingle : f.isArray = false) :
    ∃ p, Bound.valuesOf argument arguments = [p] :=
  List.length_eq_one_iff.mp (h.length_valuesOf hf hrequired hsingle)

end Typed
end Signature

/-! ## Kinds of rules -/

/-- A rule that is relabelled stays of its kind. -/
@[simp] theorem Instance.kind_relabel (name : String) (arguments : List Argument) (i : Instance) :
    (i.relabel name arguments).kind = i.kind := by
  cases i <;> rfl

/-- The rule of a body is of the kind of the body. -/
@[simp] theorem RuleBody.kind_toInstance (name : String) (arguments : List Argument)
    (body : RuleBody) : (body.toInstance name arguments).kind = body.kind := by
  cases body <;> rfl

/-- An argument that has the type of a kind is a rule of the kind. -/
theorem Param.HasType.exists_eq_toParam {vars : Variables} {p : Param} {kind : RuleKind}
    (h : p.HasType vars kind.type) : ∃ i : Instance, p = i.toParam ∧ i.kind = kind := by
  generalize htype : kind.type = type at h
  cases h with
  | constant value => exact absurd (htype ▸ value.isPlain_type) (by simp [kind.isPlain_type])
  | «variable» hplain | cell hplain => exact absurd (htype ▸ hplain) (by simp [kind.isPlain_type])
  | matcher rule =>
    obtain rfl : kind = .matcher := by cases kind <;> first | rfl | contradiction
    exact ⟨.matcher rule, rfl, rfl⟩
  | replacer rule =>
    obtain rfl : kind = .replacer := by cases kind <;> first | rfl | contradiction
    exact ⟨.replacer rule, rfl, rfl⟩

/-- A rule as an argument is that rule. -/
@[simp] theorem Param.toInstance?_toParam (i : Instance) : i.toParam.toInstance? = some i := by
  cases i <;> rfl

namespace Signature

variable {s : Signature} {env : Environment} {arguments yielded : List Argument} {i : Instance}

/-- What a factory adopts is the one value its root yields, converted to its kind. -/
theorem adopt_eq_ok :
    s.adopt env arguments yielded = .ok i ↔ ∃ root rule, yielded = [root] ∧
      root.value.convert env.vars s.output.type = some (Instance.toParam rule) ∧
        rule.kind = s.output ∧ rule.relabel s.name arguments = i := by
  constructor
  · intro h
    unfold adopt at h
    split at h
    · next root =>
      cases hvalue : root.value.convert env.vars s.output.type with
      | none => simp [hvalue] at h
      | some q =>
        obtain ⟨rule, rfl, hkind⟩ := (Param.hasType_of_convert hvalue).exists_eq_toParam
        simp only [hvalue, Option.bind_some, Param.toInstance?_toParam] at h
        exact ⟨root, rule, rfl, hvalue, hkind, Except.ok.inj h⟩
    · contradiction
  · rintro ⟨root, rule, rfl, hvalue, -, rfl⟩
    simp only [adopt, hvalue, Option.bind_some, Param.toInstance?_toParam]

/-- A native body is built into a rule of the kind declared. -/
theorem kind_of_buildNative {id : String} (h : s.buildNative env id arguments = .ok i) :
    i.kind = s.output := by
  obtain ⟨native, body, -, -, hkind, rfl⟩ := buildNative_eq_ok.mp h
  rw [RuleBody.kind_toInstance, hkind]

end Signature

/-- A factory builds rules of the kind it declares. -/
theorem Node.kind_of_instantiate {env : Environment} {f : Factory} {arguments : List Argument}
    {i : Instance} (h : Node.instantiate env false f arguments = .ok i) : i.kind = f.output := by
  obtain ⟨signature, body⟩ := f
  obtain ⟨valid, -, h⟩ := bind_eq_ok.mp h
  cases body with
  | native id => exact Signature.kind_of_buildNative h
  | tree root =>
    obtain ⟨yielded, -, h⟩ := bind_eq_ok.mp h
    obtain ⟨_, rule, -, -, hkind, rfl⟩ := Signature.adopt_eq_ok.mp h
    rw [Instance.kind_relabel, hkind]
    rfl

/-! ## Nodes -/

namespace Node

variable {s : Signature} {env : Environment} {arguments yielded bound : List Argument}

mutual

/-- A node and the nodes below it, as far as the tree goes. -/
def nodes : Node → List Node
  | .call slot factory children => .call slot factory children :: nodesOf children
  | n => [n]

/-- The nodes of a list and the nodes below them. -/
def nodesOf : List Node → List Node
  | [] => []
  | n :: rest => n.nodes ++ nodesOf rest

end

/-- Whatever a node yields feeds its slot and has the type that the node presents. -/
theorem typed_of_evaluate {n : Node} (hs : s.Typed env.vars arguments)
    (h : n.evaluate env false arguments = .ok yielded) :
    ∀ a ∈ yielded, a.slot = n.slot ∧
      ∀ found, n.yields? s = some found → a.value.HasType env.vars found := by
  cases n with
  | constant slot value =>
    obtain rfl := Except.ok.inj h
    refine List.forall_mem_singleton.mpr ⟨rfl, fun found hfound => ?_⟩
    obtain rfl := Option.some.inj hfound
    exact .constant value
  | cell slot target =>
    obtain rfl := Except.ok.inj h
    refine List.forall_mem_singleton.mpr ⟨rfl, fun found hfound => ?_⟩
    obtain rfl := Option.some.inj hfound
    exact .cell rfl
  | «variable» slot argument =>
    obtain rfl := Except.ok.inj h
    intro a ha
    obtain ⟨p, hp, rfl⟩ := List.mem_map.mp ha
    refine ⟨rfl, fun found hfound => ?_⟩
    obtain ⟨f, hf, rfl⟩ := Option.map_eq_some_iff.mp hfound
    exact hs.hasType_of_mem_valuesOf hf p hp
  | call slot factory children =>
    obtain ⟨_, rule, -, hrule, rfl⟩ := evaluate_call_eq_ok.mp h
    refine List.forall_mem_singleton.mpr ⟨rfl, fun found hfound => ?_⟩
    obtain rfl := Option.some.inj hfound
    rw [← kind_of_instantiate hrule]
    exact Param.hasType_toParam env.vars rule

/-- What several nodes yield is yielded by one of them. -/
theorem exists_of_mem_evaluateAll {nodes : List Node}
    (h : evaluateAll env false arguments nodes = .ok bound) :
    ∀ a ∈ bound, ∃ n ∈ nodes, ∃ part, n.evaluate env false arguments = .ok part ∧ a ∈ part := by
  induction nodes generalizing bound with
  | nil =>
    obtain rfl := Except.ok.inj h
    exact List.forall_mem_nil _
  | cons n rest ih =>
    obtain ⟨first, more, hfirst, hmore, rfl⟩ := bind_bind_eq_ok.mp h
    intro a ha
    rcases List.mem_append.mp ha with ha | ha
    · exact ⟨n, List.mem_cons_self, first, hfirst, ha⟩
    · obtain ⟨m, hm, part, hpart, ha⟩ := ih hmore a ha
      exact ⟨m, List.mem_cons_of_mem n hm, part, hpart, ha⟩

/-- How many children feed a slot. -/
theorem countP_slot_eq_count (children : List Node) (slot : String) :
    children.countP (·.slot = slot) = (children.map Node.slot).count slot := by
  rw [List.count_eq_countP, List.countP_map]
  rfl

/-- The slots that children feed are those of its members. -/
theorem mem_slotsOf {children : List Node} {slot : String} :
    slot ∈ slotsOf children ↔ slot ∈ children.map Node.slot := by
  rw [slotsOf, Bound.mem_slots, List.map_map]
  rfl

/-- Children without a fault in how they are wired are wired to the formals. -/
theorem wiringFaults_eq_nil_iff {children : List Node} :
    wiringFaults s children = [] ↔ s.Wired (children.map Node.slot) := by
  simp only [wiringFaults, List.append_eq_nil_iff, List.map_eq_nil_iff, List.filter_eq_nil_iff,
    List.filterMap_eq_nil_iff, countP_slot_eq_count]
  constructor
  · rintro ⟨⟨hunknown, hcrowded⟩, hopen⟩
    constructor
    case declared =>
      intro slot hslot
      obtain ⟨c, hc, rfl⟩ := List.mem_map.mp hslot
      simpa [Option.isSome_iff_ne_none] using hunknown c hc
    case single =>
      intro slot hcount
      have hslot := List.count_pos_iff.mp (Nat.lt_of_succ_lt hcount)
      obtain ⟨c, hc, rfl⟩ := List.mem_map.mp hslot
      have hknown := hunknown c hc
      have hcrowded := hcrowded c.slot (mem_slotsOf.mpr hslot)
      cases hf : s.formal? c.slot with
      | none => simp [hf] at hknown
      | some f => simpa [hcount, hf] using hcrowded
    case complete =>
      intro f hf hrequired
      simpa [hrequired] using hopen f hf
  · intro h
    refine ⟨⟨fun c hc => ?_, fun slot hslot => ?_⟩, fun f hf => ?_⟩
    · have hdeclared := h.declared c.slot (List.mem_map_of_mem hc)
      simpa using Option.isSome_iff_ne_none.mp hdeclared
    · have hsingle := h.single slot
      cases hf : s.formal? slot with
      | none => simp
      | some f => simpa [hf] using hsingle
    · simpa using h.complete f hf

end Node
end GridAudit
