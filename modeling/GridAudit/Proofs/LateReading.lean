import GridAudit.Proofs.Settled
import Mathlib.Data.List.Forall2

/-!
# Cells in the place of constants

A constant is converted when it is given to a factory, and a cell whenever a rule reads it. In the
contexts in which the cell holds a text that converts to the constant the two come to the same, as
long as they are read as the type of the constant: a body built of the one runs like a body built of
the other. A pattern given by a constant is compiled with the rule, one in a cell on every run, and
they are the same pattern.
-/

namespace GridAudit

variable {K : Context → Prop} {ctx : Context}

/-! ## Operands -/

/-- An operand that may be put for another which is read as a type: itself, or a cell for a
constant, if in the contexts at hand the cell holds a text that converts to the constant. -/
inductive Operand.StandsFor (K : Context → Prop) (type : ValueType) : Operand → Operand → Prop
  | same (o : Operand) : StandsFor K type o o
  | read {value : Constant} {target : CellRange} {text : String}
      (hread : ∀ ctx, K ctx → ctx.read target = .ok text)
      (hconvert : (Constant.string text).convert type = some value) :
    StandsFor K type (.constant value) (.cell target)

namespace Operand.StandsFor

variable {o o' : Operand}

/-- A text and the cell that holds it have one value. -/
theorem resolve_eq (h : o.StandsFor K .string o') (hctx : K ctx) :
    o.resolve ctx = o'.resolve ctx := by
  cases h with
  | same => rfl
  | read hread hconvert =>
    obtain rfl := Option.some.inj hconvert
    simp only [resolve, hread ctx hctx]
    rfl

/-- A text and the cell that holds it are read alike. -/
theorem readString_eq (h : o.StandsFor K .string o') (hctx : K ctx) :
    o.readString ctx = o'.readString ctx :=
  readString_congr (h.resolve_eq hctx)

/-- A value of a type and the cell that holds it are read alike as the type. -/
theorem readAs_eq {α : Type} {type : ValueType} {reading : Constant → Option α}
    {make : α → Constant} (hmake : ∀ a, reading (make a) = some a)
    (hconvert : ∀ value : Constant, value.convert type = (reading value).map make)
    (h : o.StandsFor K type o') (hctx : K ctx) :
    o.readAs type reading ctx = o'.readAs type reading ctx := by
  cases h with
  | same => rfl
  | read hread hvalue =>
    rw [hconvert] at hvalue
    obtain ⟨a, ha, rfl⟩ := Option.map_eq_some_iff.mp hvalue
    simp only [readAs, resolve, hread ctx hctx, Except.map, bind, Except.bind, hmake, ha]

/-- A whole number and the cell that holds it are read alike. -/
theorem readInt_eq (h : o.StandsFor K .int o') (hctx : K ctx) : o.readInt ctx = o'.readInt ctx :=
  readAs_eq (fun _ => rfl) (fun _ => rfl) h hctx

/-- A real number and the cell that holds it are read alike. -/
theorem readReal_eq (h : o.StandsFor K .real o') (hctx : K ctx) :
    o.readReal ctx = o'.readReal ctx :=
  readAs_eq (fun _ => rfl) (fun _ => rfl) h hctx

/-- A pattern that is compiled with the rule is the one compiled on every run. -/
theorem exists_ofOperand? {whole : Bool} {source : PatternSource} (h : o.StandsFor K .string o')
    (hsource : PatternSource.ofOperand? whole o = some source) :
    ∃ source', PatternSource.ofOperand? whole o' = some source' ∧
      ∀ ctx, K ctx → source.program ctx = source'.program ctx := by
  cases h with
  | same => exact ⟨source, hsource, fun _ _ => rfl⟩
  | @read _ target text hread hconvert =>
    obtain rfl := Option.some.inj hconvert
    obtain ⟨program, hprogram, rfl⟩ := Option.map_eq_some_iff.mp hsource
    have hprogram : Pattern.Program.ofText? (PatternSource.written whole text) = some program :=
      hprogram
    refine ⟨.deferred (.cell target) whole, rfl, fun ctx hctx => ?_⟩
    have htext : (Operand.cell target).readString ctx = .ok text := by
      simp only [readString, resolve, hread ctx hctx]
      rfl
    simp only [PatternSource.program, htext, bind, Except.bind, hprogram]

end Operand.StandsFor

/-! ## Rules and arguments -/

/-- Rules of one kind and name that answer alike in some contexts. -/
structure Instance.AgreesOn (K : Context → Prop) (i j : Instance) : Prop where
  kind : i.kind = j.kind
  name : i.name = j.name
  outcome : ∀ ctx, K ctx → i.outcome ctx = j.outcome ctx

namespace Instance

/-- A rule agrees with itself. -/
theorem AgreesOn.refl (i : Instance) : i.AgreesOn K i := ⟨rfl, rfl, fun _ _ => rfl⟩

/-- A replacer that puts an argument as it is agrees with one that puts an argument of the same
value. -/
theorem agreesOn_verbatim {p p' : Param} (h : ∀ ctx, K ctx → p.resolve ctx = p'.resolve ctx) :
    (replacer (Replacer.verbatim p)).AgreesOn K (replacer (Replacer.verbatim p')) :=
  ⟨rfl, rfl, fun ctx hctx => congrArg Sum.inr (h ctx hctx)⟩

/-- A rule has no value; the failure shows its kind and name. -/
theorem resolve_toParam (i : Instance) : i.toParam.resolve ctx =
    .error (.unreadable (Operand.rule i.kind i.name).describe .string) := by
  cases i <;> rfl

/-- Rules that agree do so under another name and with other arguments. -/
theorem AgreesOn.relabel {i j : Instance} (h : i.AgreesOn K j) (name : String)
    (arguments arguments' : List Argument) :
    (i.relabel name arguments).AgreesOn K (j.relabel name arguments') where
  kind := by simp only [kind_relabel, h.kind]
  name := by cases i <;> cases j <;> rfl
  outcome ctx hctx := by simp only [outcome_relabel, h.outcome ctx hctx]

/-- Rules that agree serve as replacers that agree. -/
theorem AgreesOn.asReplacer {i j : Instance} (h : i.AgreesOn K j) :
    (replacer i.toParam.asReplacer).AgreesOn K (replacer j.toParam.asReplacer) := by
  have hkind := h.kind
  cases i <;> cases j <;> try contradiction
  case matcher m m' =>
    refine agreesOn_verbatim fun ctx _ => ?_
    rw [resolve_toParam (matcher m), resolve_toParam (matcher m'), h.kind, h.name]
  case replacer => exact h

end Instance

/-- An argument that may be put for another in some contexts: itself, a cell for a constant to which
the text of the cell converts, if the text is allowed for the type of the constant, or a rule that
answers alike. -/
inductive Param.StandsFor (K : Context → Prop) (allowed : String → ValueType → Prop) :
    Param → Param → Prop
  | same (p : Param) : StandsFor K allowed p p
  | read {value : Constant} {target : CellRange} {text : String}
      (hallowed : allowed text value.type) (hread : ∀ ctx, K ctx → ctx.read target = .ok text)
      (hconvert : (Constant.string text).convert value.type = some value) :
    StandsFor K allowed (.constant value) (.cell target)
  | rule {i j : Instance} (h : i.AgreesOn K j) : StandsFor K allowed i.toParam j.toParam

/-- Whether a text that was converted to one type comes out, when it is converted to another, as it
would at once. A replacer is made of anything, and puts the text only if it was kept. -/
structure PassesTo (text : String) (given type : ValueType) : Prop where
  convert_eq : ∀ {value converted}, (Constant.string text).convert given = some value →
    value.convert type = some converted → (Constant.string text).convert type = some converted
  eq_string : type = .replacer → given = .string

/-- A text that was kept comes out as it would at once. -/
theorem passesTo_of_string (text : String) (type : ValueType) : PassesTo text .string type where
  convert_eq hvalue hconverted := by
    obtain rfl := Option.some.inj hvalue
    exact hconverted
  eq_string _ := rfl

/-- A text that has a reading in a type comes out as a text as it would at once just when the value
it becomes is written like it. -/
theorem passesTo_string_iff {text : String} {given : ValueType} {value : Constant}
    (hvalue : (Constant.string text).convert given = some value) :
    PassesTo text given .string ↔ value.text = text := by
  constructor
  · intro h
    exact (Constant.string.inj (Option.some.inj (h.convert_eq hvalue rfl))).symm
  · intro htext
    refine ⟨fun {value' converted} hvalue' hconverted => ?_, nofun⟩
    obtain rfl := Option.some.inj (hvalue.symm.trans hvalue')
    obtain rfl := Option.some.inj hconverted
    exact congrArg (some ∘ Constant.string) htext.symm

namespace Param.StandsFor

variable {p p' q : Param} {allowed allowed' : String → ValueType → Prop} {vars : Variables}
  {type : ValueType}

/-- What is allowed may be allowed for another reason. -/
theorem mono (h : p.StandsFor K allowed p')
    (himp : ∀ text given, allowed text given → allowed' text given) :
    p.StandsFor K allowed' p' := by
  cases h with
  | same => exact .same p
  | read hallowed hread hconvert => exact .read (himp _ _ hallowed) hread hconvert
  | rule h => exact .rule h

/-- An argument of a plain type and what is put for it are operands read alike. -/
theorem operand (h : p.StandsFor K allowed p') (htype : p.HasType vars type)
    (hplain : type.isPlain) : p.operand.StandsFor K type p'.operand := by
  cases h with
  | same => exact .same _
  | read _ hread hconvert =>
    cases htype
    exact .read hread hconvert
  | @rule i j h =>
    cases i <;> cases htype <;> contradiction

/-- What is put for a rule is a rule that answers alike. -/
theorem exists_eq_toParam {i : Instance} (h : i.toParam.StandsFor K allowed p') :
    ∃ j : Instance, p' = j.toParam ∧ i.AgreesOn K j := by
  generalize hp : i.toParam = p at h
  cases h with
  | same => exact ⟨i, hp.symm, .refl i⟩
  | read => cases i <;> contradiction
  | rule h =>
    obtain rfl := Instance.toParam_inj hp
    exact ⟨_, rfl, h⟩

/-- What is put for an argument converts to a type when the argument does, and may be put for what
the argument becomes. -/
theorem exists_convert (h : p.StandsFor K allowed p') (hq : p.convert vars type = some q)
    (hpasses : ∀ text given, allowed text given → PassesTo text given type ∧ allowed' text type) :
    ∃ q', p'.convert vars type = some q' ∧ q.StandsFor K allowed' q' := by
  cases h with
  | same => exact ⟨q, hq, .same q⟩
  | @read value target text hallowed hread hconvert =>
    obtain ⟨hpasses, hallowed'⟩ := hpasses _ _ hallowed
    by_cases hplain : type.isPlain
    · rw [convert_of_isPlain hplain] at hq ⊢
      obtain ⟨converted, hconverted, rfl⟩ := Option.map_eq_some_iff.mp hq
      obtain rfl := Constant.type_of_convert hconverted
      exact ⟨_, rfl, .read hallowed' hread (hpasses.convert_eq hconvert hconverted)⟩
    · cases type <;> try contradiction
      obtain rfl := Option.some.inj hq
      refine ⟨_, rfl, .rule (Instance.agreesOn_verbatim fun ctx hctx => ?_)⟩
      rw [hpasses.eq_string rfl] at hconvert
      exact (Operand.StandsFor.read hread hconvert).resolve_eq hctx
  | @rule i j h =>
    by_cases hplain : type.isPlain
    · rw [convert_toParam_of_isPlain i hplain] at hq
      contradiction
    · have hkind := h.kind
      cases type <;> try contradiction
      case matcher =>
        cases i <;> cases j <;> try contradiction
        obtain rfl := Option.some.inj hq
        exact ⟨_, rfl, .rule h⟩
      case replacer =>
        obtain rfl := Option.some.inj hq
        exact ⟨_, rfl, .rule h.asReplacer⟩

end Param.StandsFor

/-! ## Lists of arguments -/

/-- An argument for a slot that may be put for another for that slot. -/
structure Bound.StandsFor (K : Context → Prop) (allowed : String → ValueType → String → Prop)
    (a a' : Argument) : Prop where
  slot : a.slot = a'.slot
  value : a.value.StandsFor K (allowed · · a.slot) a'.value

/-- What is allowed in a slot may be allowed for another reason. -/
theorem Bound.StandsFor.mono {allowed allowed' : String → ValueType → String → Prop}
    {a a' : Argument} (h : Bound.StandsFor K allowed a a')
    (himp : ∀ text given slot, allowed text given slot → allowed' text given slot) :
    Bound.StandsFor K allowed' a a' :=
  ⟨h.slot, h.value.mono fun text given => himp text given a.slot⟩

section Lists

variable {allowed allowed' : String → ValueType → String → Prop} {s : Signature} {vars : Variables}
  {arguments arguments' valid : List Argument}

/-- What is bound to a slot may be put for what is bound to it. -/
theorem Bound.forall₂_valuesOf (h : List.Forall₂ (Bound.StandsFor K allowed) arguments arguments')
    (slot : String) : List.Forall₂ (Param.StandsFor K (allowed · · slot))
      (Bound.valuesOf slot arguments) (Bound.valuesOf slot arguments') :=
  (Bound.rel_valuesOf (fun _ _ ha => ha.slot) h slot).imp fun _ _ ha => ha.value

/-- When arguments are valid, so are those put for them, and may be put for them still. -/
theorem Signature.exists_validate
    (h : List.Forall₂ (Bound.StandsFor K allowed) arguments arguments')
    (hpasses : ∀ text given slot f, s.formal? slot = some f → allowed text given slot →
      PassesTo text given f.type ∧ allowed' text f.type slot)
    (hvalid : s.validate vars arguments = .ok valid) :
    ∃ valid', s.validate vars arguments' = .ok valid' ∧
      List.Forall₂ (Bound.StandsFor K allowed') valid valid' := by
  obtain ⟨hwired, hcoerced⟩ := validate_eq_ok.mp hvalid
  rw [map_eq_map_of_forall₂ h fun _ _ ha => ha.slot] at hwired
  simp only [validate_eq_ok, hwired, true_and, coerceAll_eq_ok_iff] at hcoerced ⊢
  refine exists_forall₂_of_forall₂ h hcoerced fun a a' b ha hb => ?_
  obtain ⟨f, hf, hvalue, hslot⟩ := coerce_eq_ok.mp hb
  obtain ⟨value', hvalue', hstands⟩ : ∃ value', a'.value.convert vars f.type = some value' ∧
      b.value.StandsFor K (allowed' · · a.slot) value' :=
    ha.value.exists_convert hvalue fun text given => hpasses text given a.slot f hf
  exact ⟨⟨a.slot, value'⟩, coerce_eq_ok.mpr ⟨f, ha.slot ▸ hf, hvalue', ha.slot.symm⟩,
    hslot.symm, hslot ▸ hstands⟩

end Lists

/-! ## Bodies -/

/-- What a body answers in a context: whether a test accepts, or the value an action proposes. -/
def RuleBody.outcome (ctx : Context) : RuleBody → Except EvalError Bool ⊕ Except EvalError Constant
  | .test t => .inl (t.run ctx)
  | .action a => .inr (a.run ctx >>= fun p => p.resolve ctx)

/-- Bodies of one kind that answer alike in some contexts. -/
structure RuleBody.AgreesOn (K : Context → Prop) (body body' : RuleBody) : Prop where
  kind : body.kind = body'.kind
  outcome : ∀ ctx, K ctx → body.outcome ctx = body'.outcome ctx

namespace RuleBody

variable {body body' : RuleBody}

/-- Tests that run alike are bodies that agree. -/
theorem agreesOn_test {t t' : Test} (h : ∀ ctx, K ctx → t.run ctx = t'.run ctx) :
    (test t).AgreesOn K (test t') :=
  ⟨rfl, fun ctx hctx => congrArg Sum.inl (h ctx hctx)⟩

/-- Actions that run alike are bodies that agree. -/
theorem agreesOn_action {a a' : Action Param} (h : ∀ ctx, K ctx → a.run ctx = a'.run ctx) :
    (action a).AgreesOn K (action a') :=
  ⟨rfl, fun ctx hctx => by simp only [outcome, h ctx hctx]⟩

/-- The rule of a body answers as the body does. -/
theorem outcome_toInstance (name : String) (arguments : List Argument) (body : RuleBody) :
    (body.toInstance name arguments).outcome ctx = body.outcome ctx := by
  cases body <;> rfl

/-- Bodies that agree make rules that agree. -/
theorem AgreesOn.toInstance (h : body.AgreesOn K body') (name : String)
    (arguments arguments' : List Argument) :
    (body.toInstance name arguments).AgreesOn K (body'.toInstance name arguments') where
  kind := by simp only [kind_toInstance, h.kind]
  name := by cases body <;> cases body' <;> rfl
  outcome ctx hctx := by simp only [outcome_toInstance, h.outcome ctx hctx]

end RuleBody

/-! ## Built-in bodies -/

namespace Builtin

variable {s : Signature} {vars : Variables} {arguments arguments' : List Argument} {slot : String}
  {f : Formal} {allowed : String → ValueType → String → Prop}

/-- A slot that must be bound is bound where corresponding operands are, to the one that
corresponds. -/
theorem exists_operandOf {R : Operand → Operand → Prop}
    (h : List.Forall₂ R (operandsOf arguments slot) (operandsOf arguments' slot)) {o : Operand}
    (ho : operandOf arguments slot = .ok o) :
    ∃ o', operandOf arguments' slot = .ok o' ∧ R o o' := by
  unfold operandOf at ho ⊢
  rw [optionalOperand_eq_head?] at ho ⊢
  generalize operandsOf arguments slot = operands at h ho
  generalize operandsOf arguments' slot = operands' at h
  cases h with
  | nil => contradiction
  | cons hfirst _ =>
    obtain rfl := Except.ok.inj ho
    exact ⟨_, rfl, hfirst⟩

section Typed

variable (hs : s.Typed vars arguments)
  (h : List.Forall₂ (Bound.StandsFor K allowed) arguments arguments')
include hs h

/-- The operands of a slot of plain values may be put for those of the slot. -/
theorem forall₂_operandsOf (hf : s.formal? slot = some f) (hplain : f.type.isPlain) :
    List.Forall₂ (Operand.StandsFor K f.type) (operandsOf arguments slot)
      (operandsOf arguments' slot) := by
  rw [operandsOf, operandsOf, List.forall₂_map_left_iff, List.forall₂_map_right_iff]
  refine ((List.forall₂_and_left _ _).mpr ⟨hs.hasType_of_mem_valuesOf hf,
    Bound.forall₂_valuesOf h slot⟩).imp fun p p' hp => ?_
  exact hp.2.operand hp.1 hplain

/-- The pattern of the one list is compiled like that of the other. -/
theorem exists_patternOf (hf : s.formal? "pattern" = some f) (htype : f.type = .string)
    {whole : Bool} {source : PatternSource} (hsource : patternOf whole arguments = .ok source) :
    ∃ source', patternOf whole arguments' = .ok source' ∧
      ∀ ctx, K ctx → source.program ctx = source'.program ctx := by
  obtain ⟨o, ho, hsource⟩ := exists_of_patternOf hsource
  obtain ⟨o', ho', hstands⟩ := exists_operandOf (forall₂_operandsOf hs h hf (htype ▸ rfl)) ho
  rw [htype] at hstands
  obtain ⟨source', hsource', hprogram⟩ := hstands.exists_ofOperand? hsource
  refine ⟨source', ?_, hprogram⟩
  simp only [patternOf, ho', bind, Except.bind, hsource']

/-- An optional operand is read like the one put for it. -/
theorem map_optionalOperand {α : Type} {read : Operand → Except EvalError α}
    (hf : s.formal? slot = some f) (hplain : f.type.isPlain)
    (hread : ∀ o o', o.StandsFor K f.type o' → read o = read o') :
    (optionalOperand arguments slot).map read = (optionalOperand arguments' slot).map read := by
  rw [optionalOperand_eq_head?, optionalOperand_eq_head?, ← List.head?_map, ← List.head?_map,
    map_eq_map_of_forall₂ (forall₂_operandsOf hs h hf hplain) hread]

/-- Bounds are read like those put for them. -/
theorem map_boundsOf {α : Type} {read : Operand → Except EvalError α} {g : Formal}
    (hleast : s.formal? "min" = some f) (hgreatest : s.formal? "max" = some g)
    (htype : f.type = g.type) (hplain : g.type.isPlain)
    (hread : ∀ o o', o.StandsFor K g.type o' → read o = read o') :
    (boundsOf arguments).least.map read = (boundsOf arguments').least.map read ∧
      (boundsOf arguments).greatest.map read = (boundsOf arguments').greatest.map read :=
  ⟨map_optionalOperand hs h hleast (htype ▸ hplain) (htype ▸ hread),
    map_optionalOperand hs h hgreatest hplain hread⟩

/-- A body made of an operand agrees with the one made of the operand put for it. -/
theorem exists_operandBody (hf : s.formal? slot = some f) (hplain : f.type.isPlain)
    {make make' : Operand → RuleBody} {body : RuleBody}
    (hbody : (operandOf arguments slot >>= fun o => .ok (make o)) = .ok body)
    (hmake : ∀ o o', o.StandsFor K f.type o' → (make o).AgreesOn K (make' o')) :
    ∃ body', (operandOf arguments' slot >>= fun o => .ok (make' o)) = .ok body' ∧
      body.AgreesOn K body' := by
  obtain ⟨o, ho, hbody⟩ := bind_eq_ok.mp hbody
  obtain rfl := Except.ok.inj hbody
  obtain ⟨o', ho', hstands⟩ := exists_operandOf (forall₂_operandsOf hs h hf hplain) ho
  exact ⟨_, bind_eq_ok.mpr ⟨o', ho', rfl⟩, hmake _ _ hstands⟩

end Typed

/-- Matchers bound to a slot have tests that run like those of the matchers put for them. -/
theorem exists_testsOf (h : List.Forall₂ (Bound.StandsFor K allowed) arguments arguments')
    {tests : List Test} (htests : testsOf arguments slot = .ok tests) :
    ∃ tests', testsOf arguments' slot = .ok tests' ∧
      List.Forall₂ (fun t t' => ∀ ctx, K ctx → t.run ctx = t'.run ctx) tests tests' := by
  simp only [testsOf, mapM_eq_ok] at htests ⊢
  refine exists_forall₂_of_forall₂ (Bound.forall₂_valuesOf h slot) htests fun p p' t hp ht => ?_
  cases hp with
  | same => exact ⟨t, ht, fun _ _ => rfl⟩
  | read => contradiction
  | @rule i j hagrees =>
    have hkind := hagrees.kind
    cases i <;> cases j <;> try contradiction
    case matcher m m' =>
      obtain rfl : m.body = t := Except.ok.inj ht
      exact ⟨m'.body, rfl, fun ctx hctx => Sum.inl.inj (hagrees.outcome ctx hctx)⟩

/-- A built-in body can be built of what is put for its arguments, and answers alike. -/
theorem exists_build {b : Builtin} {body : RuleBody}
    (hs : (Registry.builtinFactory b).signature.Typed vars arguments)
    (h : List.Forall₂ (Bound.StandsFor K allowed) arguments arguments')
    (hbody : b.build arguments = .ok body) :
    ∃ body', b.build arguments' = .ok body' ∧ body.AgreesOn K body' := by
  cases b with
  | exact | stringEquals =>
    obtain ⟨input, against, hinput, hagainst, rfl⟩ := bind_bind_eq_ok.mp hbody
    obtain ⟨input', hinput', hi⟩ := exists_operandOf (forall₂_operandsOf hs h rfl rfl) hinput
    obtain ⟨against', hagainst', ha⟩ := exists_operandOf (forall₂_operandsOf hs h rfl rfl) hagainst
    refine ⟨_, bind_bind_eq_ok.mpr ⟨input', against', hinput', hagainst', rfl⟩,
      RuleBody.agreesOn_test fun ctx hctx => ?_⟩
    simp only [Test.run, hi.readString_eq hctx, ha.readString_eq hctx]
  | regex =>
    obtain ⟨pattern, input, hpattern, hinput, rfl⟩ := bind_bind_eq_ok.mp hbody
    obtain ⟨pattern', hpattern', hp⟩ := exists_patternOf hs h rfl rfl hpattern
    obtain ⟨input', hinput', hi⟩ := exists_operandOf (forall₂_operandsOf hs h rfl rfl) hinput
    refine ⟨_, bind_bind_eq_ok.mpr ⟨pattern', input', hpattern', hinput', rfl⟩,
      RuleBody.agreesOn_test fun ctx hctx => ?_⟩
    simp only [Test.run, hi.readString_eq hctx, hp ctx hctx]
  | intRange =>
    refine exists_operandBody hs h rfl rfl hbody fun o o' ho =>
      RuleBody.agreesOn_test fun ctx hctx => ?_
    obtain ⟨hleast, hgreatest⟩ :=
      map_boundsOf hs h rfl rfl rfl rfl fun o o' ho => ho.readInt_eq hctx
    simp only [Test.run, ho.readInt_eq hctx, Bounds.hold_congr _ _ hleast hgreatest]
  | realRange =>
    refine exists_operandBody hs h rfl rfl hbody fun o o' ho =>
      RuleBody.agreesOn_test fun ctx hctx => ?_
    obtain ⟨hleast, hgreatest⟩ :=
      map_boundsOf hs h rfl rfl rfl rfl fun o o' ho => ho.readReal_eq hctx
    simp only [Test.run, ho.readReal_eq hctx, Bounds.hold_congr _ _ hleast hgreatest]
  | length =>
    refine exists_operandBody hs h rfl rfl hbody fun o o' ho =>
      RuleBody.agreesOn_test fun ctx hctx => ?_
    obtain ⟨hleast, hgreatest⟩ :=
      map_boundsOf hs h rfl rfl rfl rfl fun o o' ho => ho.readInt_eq hctx
    simp only [Test.run, ho.readString_eq hctx, Bounds.hold_congr _ _ hleast hgreatest]
  | isInt | isReal | empty =>
    refine exists_operandBody hs h rfl rfl hbody fun o o' ho =>
      RuleBody.agreesOn_test fun ctx hctx => ?_
    simp only [Test.run, ho.readString_eq hctx]
  | not =>
    obtain ⟨tests, htests, hbody⟩ := bind_eq_ok.mp hbody
    obtain ⟨tests', htests', hrun⟩ := exists_testsOf h htests
    cases hrun with
    | nil => contradiction
    | cons hinner _ =>
      obtain rfl := Except.ok.inj hbody
      refine ⟨_, bind_eq_ok.mpr ⟨_, htests', rfl⟩, RuleBody.agreesOn_test fun ctx hctx => ?_⟩
      simp only [Test.run, hinner ctx hctx]
  | all | any =>
    obtain ⟨tests, htests, hbody⟩ := bind_eq_ok.mp hbody
    obtain rfl := Except.ok.inj hbody
    obtain ⟨tests', htests', hrun⟩ := exists_testsOf h htests
    refine ⟨_, bind_eq_ok.mpr ⟨tests', htests', rfl⟩, RuleBody.agreesOn_test fun ctx hctx => ?_⟩
    have hmap := map_eq_map_of_forall₂ hrun fun t t' ht => ht ctx hctx
    simp only [Test.run, Test.runAll_congr hmap, Test.runAny_congr hmap]
  | oneOf =>
    refine exists_operandBody hs h rfl rfl hbody fun o o' ho =>
      RuleBody.agreesOn_test fun ctx hctx => ?_
    have hformal : (Registry.builtinFactory .oneOf).signature.formal? "options" =
        some (Formal.single "options" .string).array := rfl
    have hoptions := map_eq_map_of_forall₂ (forall₂_operandsOf hs h hformal rfl)
      fun o o' ho => ho.readString_eq hctx
    simp only [Test.run, ho.readString_eq hctx, Operand.anyReads_congr _ hoptions]
  | literal =>
    refine exists_operandBody hs h rfl rfl hbody fun o o' ho =>
      RuleBody.agreesOn_action fun ctx hctx => ?_
    simp only [Action.run, ho.resolve_eq hctx]
  | trim | upper | lower =>
    refine exists_operandBody hs h rfl rfl hbody fun o o' ho =>
      RuleBody.agreesOn_action fun ctx hctx => ?_
    simp only [Action.run, Action.run.text, ho.readString_eq hctx]
  | concat =>
    obtain rfl := Except.ok.inj hbody
    refine ⟨_, rfl, RuleBody.agreesOn_action fun ctx hctx => ?_⟩
    have hformal : (Registry.builtinFactory .concat).signature.formal? "parts" =
        some (Formal.single "parts" .string).array := rfl
    have hparts := map_eq_map_of_forall₂ (forall₂_operandsOf hs h hformal rfl)
      fun o o' ho => ho.readString_eq hctx
    simp only [Action.run, Operand.readJoined_congr hparts]
  | regexReplace =>
    obtain ⟨input, hinput, hbody⟩ := bind_eq_ok.mp hbody
    obtain ⟨pattern, replacement, hpattern, hreplacement, rfl⟩ := bind_bind_eq_ok.mp hbody
    obtain ⟨input', hinput', hi⟩ := exists_operandOf (forall₂_operandsOf hs h rfl rfl) hinput
    obtain ⟨pattern', hpattern', hp⟩ := exists_patternOf hs h rfl rfl hpattern
    obtain ⟨replacement', hreplacement', hr⟩ :=
      exists_operandOf (forall₂_operandsOf hs h rfl rfl) hreplacement
    refine ⟨_, bind_eq_ok.mpr ⟨input', hinput',
      bind_bind_eq_ok.mpr ⟨pattern', replacement', hpattern', hreplacement', rfl⟩⟩,
      RuleBody.agreesOn_action fun ctx hctx => ?_⟩
    simp only [Action.run, hi.readString_eq hctx, hr.readString_eq hctx, hp ctx hctx]
  | clampInt =>
    refine exists_operandBody hs h rfl rfl hbody fun o o' ho =>
      RuleBody.agreesOn_action fun ctx hctx => ?_
    obtain ⟨hleast, hgreatest⟩ :=
      map_boundsOf hs h rfl rfl rfl rfl fun o o' ho => ho.readInt_eq hctx
    simp only [Action.run, ho.readInt_eq hctx, Bounds.clamp_congr _ hleast hgreatest]

/-- A built-in factory builds of what is put for valid arguments, and the rules agree. -/
theorem exists_buildNative {b : Builtin} {env : Environment} {i : Instance}
    (hs : (Registry.builtinFactory b).signature.Typed env.vars arguments)
    (h : List.Forall₂ (Bound.StandsFor K allowed) arguments arguments')
    (hi : (Registry.builtinFactory b).signature.buildNative env b.id arguments = .ok i) :
    ∃ i', (Registry.builtinFactory b).signature.buildNative env b.id arguments' = .ok i' ∧
      i.AgreesOn K i' := by
  obtain ⟨native, body, hnative, hbody, hkind, rfl⟩ := Signature.buildNative_eq_ok.mp hi
  obtain rfl : native = b := eq_of_id_eq (by simpa using List.find?_some hnative)
  obtain ⟨body', hbody', hagrees⟩ := exists_build hs h hbody
  exact ⟨_, Signature.buildNative_eq_ok.mpr ⟨native, body', hnative, hbody',
    hagrees.kind ▸ hkind, rfl⟩, hagrees.toInstance _ _ _⟩

end Builtin

end GridAudit
