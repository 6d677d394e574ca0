import GridAudit.Proofs.Optimization
import GridAudit.Proofs.Registered
import GridAudit.Proofs.Typing
import Mathlib.Data.List.Nodup

/-!
# Matchers that read nothing never fail

A built-in factory hands its body arguments of the types it declares, so a constant among them can
be read as what the body takes it for, however often it was converted on its way down a tree. What
is left to fail is reading cells and variables. A matcher that lists no address and holds no
variable, built over the built-in rules and trees of them, therefore accepts or refuses, and does
the same in every context.
-/

namespace GridAudit

/-! ## Settled runs -/

/-- A run with one result in all contexts, once none of its operands is a variable or a cell. -/
def Settles {α : Type} (operands : List Operand) (run : Context → Except EvalError α) : Prop :=
  (∀ o ∈ operands, o.Covered [] []) → ∃ a, ∀ ctx, run ctx = .ok a

namespace Settles

variable {α β : Type} {operands operands' : List Operand}

/-- A run that reads nothing is settled. -/
theorem pure (operands : List Operand) (a : α) : Settles operands fun _ => .ok a :=
  fun _ => ⟨a, fun _ => rfl⟩

/-- A sequence of settled runs is settled. -/
theorem bind {run : Context → Except EvalError α} {next : α → Context → Except EvalError β}
    (hrun : Settles operands run) (hnext : ∀ a, Settles operands (next a)) :
    Settles operands fun ctx => run ctx >>= fun a => next a ctx := by
  intro hoperands
  obtain ⟨a, ha⟩ := hrun hoperands
  obtain ⟨b, hb⟩ := hnext a hoperands
  refine ⟨b, fun ctx => ?_⟩
  simp only [ha ctx]
  exact hb ctx

/-- A run may be taken to have more operands. -/
theorem mono {run : Context → Except EvalError α} (h : Settles operands run)
    (hsubset : operands ⊆ operands') : Settles operands' run :=
  fun hoperands => h fun o ho => hoperands o (hsubset ho)

end Settles

/-! ## Operands -/

/-- An operand of a plain type; what a variable or a cell holds is not known yet. -/
def Operand.IsOf (type : ValueType) : Operand → Prop
  | .constant value => value.type = type
  | .variable _ | .cell _ => True
  | .rule _ _ => False

/-- An argument of a plain type is an operand of it. -/
theorem Param.HasType.isOf_operand {vars : Variables} {p : Param} {type : ValueType}
    (h : p.HasType vars type) (hplain : type.isPlain) : p.operand.IsOf type := by
  cases h with
  | constant => rfl
  | «variable» | cell => trivial
  | matcher | replacer => contradiction

namespace Operand

variable {o : Operand} {operands : List Operand} {type : ValueType}

/-- An operand of a plain type that is neither a variable nor a cell is a constant of it. -/
theorem IsOf.exists_eq_constant (h : o.IsOf type) (hcovered : o.Covered [] []) :
    ∃ value, o = .constant value ∧ value.type = type := by
  cases o with
  | constant value => exact ⟨value, rfl, h⟩
  | «variable» v => exact absurd hcovered List.not_mem_nil
  | cell target => exact absurd hcovered List.not_mem_nil
  | rule => contradiction

/-- A constant of a type is read as the type. -/
theorem settles_readAs {α : Type} {reading : Constant → Option α}
    (hreading : ∀ value, value.type = type → (reading value).isSome) (h : o.IsOf type)
    (ho : o ∈ operands) : Settles operands fun ctx => o.readAs type reading ctx := by
  intro hoperands
  obtain ⟨value, rfl, hvalue⟩ := h.exists_eq_constant (hoperands o ho)
  obtain ⟨a, ha⟩ := Option.isSome_iff_exists.mp (hreading value hvalue)
  refine ⟨a, fun ctx => ?_⟩
  simp only [readAs, resolve, bind, Except.bind, ha]

/-- Every constant is read as text. -/
theorem settles_readString (h : o.IsOf type) (ho : o ∈ operands) :
    Settles operands fun ctx => o.readString ctx := by
  intro hoperands
  obtain ⟨value, rfl, -⟩ := h.exists_eq_constant (hoperands o ho)
  exact ⟨value.text, fun _ => rfl⟩

/-- A whole number is read as one. -/
theorem settles_readInt (h : o.IsOf .int) (ho : o ∈ operands) :
    Settles operands fun ctx => o.readInt ctx :=
  settles_readAs (fun value hvalue => by cases value <;> first | rfl | contradiction) h ho

/-- A real number is read as one. -/
theorem settles_readReal (h : o.IsOf .real) (ho : o ∈ operands) :
    Settles operands fun ctx => o.readReal ctx :=
  settles_readAs (fun value hvalue => by cases value <;> first | rfl | contradiction) h ho

/-- A text is compared with constants. -/
theorem settles_anyReads (text : String) {options : List Operand}
    (h : ∀ o ∈ options, o.IsOf type) (hsubset : options ⊆ operands) :
    Settles operands fun ctx => anyReads ctx text options := by
  induction options with
  | nil => exact .pure _ _
  | cons o rest ih =>
    obtain ⟨ho, hrest⟩ := List.forall_mem_cons.mp h
    obtain ⟨hmem, hsubset⟩ := List.cons_subset.mp hsubset
    refine .bind (settles_readString ho hmem) fun option => ?_
    split
    · exact .pure _ _
    · exact ih hrest hsubset

end Operand

/-- A pattern given by a constant is compiled already, and one given by a variable or a cell waits
for its value. -/
theorem PatternSource.settles_program {type : ValueType} {whole : Bool} {o : Operand}
    {source : PatternSource} (h : o.IsOf type) (hsource : ofOperand? whole o = some source)
    {operands : List Operand} (hsubset : source.operands ⊆ operands) :
    Settles operands fun ctx => source.program ctx := by
  cases o with
  | constant value =>
    obtain ⟨program, -, rfl⟩ := Option.map_eq_some_iff.mp hsource
    exact .pure _ _
  | «variable» v =>
    obtain rfl := Option.some.inj hsource
    exact fun hoperands => absurd (hoperands _ (hsubset List.mem_cons_self)) List.not_mem_nil
  | cell target =>
    obtain rfl := Option.some.inj hsource
    exact fun hoperands => absurd (hoperands _ (hsubset List.mem_cons_self)) List.not_mem_nil
  | rule => contradiction

section Reading

variable {α : Type} {operands : List Operand} {read : Context → Operand → Except EvalError α}

/-- A bound is compared when it can be read. -/
theorem Bounds.settles_check (fits : α → Bool) {bound : Option Operand}
    (h : ∀ o ∈ bound.toList, Settles operands fun ctx => read ctx o) :
    Settles operands fun ctx => Bounds.check (read ctx) fits bound := by
  cases bound with
  | none => exact .pure _ _
  | some o => exact .bind (h o (by simp)) fun _ => .pure _ _

/-- Bounds are compared when both can be read. -/
theorem Bounds.settles_hold {b : Bounds} (le : α → α → Bool) (value : α)
    (h : ∀ o ∈ b.operands, Settles operands fun ctx => read ctx o) :
    Settles operands fun ctx => b.hold (read ctx) le value := by
  obtain ⟨hleast, hgreatest⟩ := List.forall_mem_append.mp h
  exact .bind (settles_check _ hleast) fun _ => .bind (settles_check _ hgreatest) fun _ =>
    .pure _ _

end Reading

/-! ## Tests -/

namespace Test

/-- A test that settles once none of its operands is a variable or a cell. -/
def Settled (t : Test) : Prop := Settles t.operands fun ctx => t.run ctx

variable {tests : List Test}

/-- Settled tests that must all accept are settled together. -/
theorem settles_runAll (h : ∀ t ∈ tests, t.Settled) :
    Settles (operandsOfAll tests) fun ctx => runAll ctx tests := by
  induction tests with
  | nil => exact .pure _ _
  | cons t rest ih =>
    obtain ⟨ht, hrest⟩ := List.forall_mem_cons.mp h
    simp only [runAll]
    refine .bind (ht.mono (List.subset_append_left ..)) fun accepted => ?_
    split
    · exact (ih hrest).mono (List.subset_append_right ..)
    · exact .pure _ _

/-- Settled tests of which one must accept are settled together. -/
theorem settles_runAny (h : ∀ t ∈ tests, t.Settled) :
    Settles (operandsOfAll tests) fun ctx => runAny ctx tests := by
  induction tests with
  | nil => exact .pure _ _
  | cons t rest ih =>
    obtain ⟨ht, hrest⟩ := List.forall_mem_cons.mp h
    simp only [runAny]
    refine .bind (ht.mono (List.subset_append_left ..)) fun accepted => ?_
    split
    · exact .pure _ _
    · exact (ih hrest).mono (List.subset_append_right ..)

end Test

/-! ## Built-in bodies -/

/-- A body that is no test, or a settled one. -/
def RuleBody.Settled : RuleBody → Prop
  | .test t => t.Settled
  | .action _ => True

/-- An argument that is no matcher, or one with a settled test. -/
def Param.Settled : Param → Prop
  | .matcher m => m.body.Settled
  | _ => True

/-- Converting an argument keeps it settled. -/
theorem Param.Settled.convert {vars : Variables} {p q : Param} {type : ValueType} (h : p.Settled)
    (hq : p.convert vars type = some q) : q.Settled := by
  cases hasType_of_convert hq with
  | constant | «variable» | cell | replacer => trivial
  | matcher rule =>
    cases p with
    | matcher m =>
      obtain rfl : m = rule := Param.matcher.inj (Option.some.inj hq)
      exact h
    | constant | «variable» | cell | replacer => simp [Param.convert] at hq

/-- A list of settled arguments. -/
def SettledAll (arguments : List Argument) : Prop := ∀ a ∈ arguments, a.value.Settled

namespace Builtin

variable {vars : Variables} {s : Signature} {arguments : List Argument} {slot : String} {f : Formal}

/-- The operands of a slot that takes plain values are of the type of its formal. -/
theorem isOf_of_mem_operandsOf (hs : s.Typed vars arguments) (hf : s.formal? slot = some f)
    (hplain : f.type.isPlain) : ∀ o ∈ operandsOf arguments slot, o.IsOf f.type := by
  intro o ho
  obtain ⟨p, hp, rfl⟩ := List.mem_map.mp ho
  exact (hs.hasType_of_mem_valuesOf hf p hp).isOf_operand hplain

/-- The first operand of a slot is of the type of its formal. -/
theorem isOf_of_optionalOperand (hs : s.Typed vars arguments) (hf : s.formal? slot = some f)
    (hplain : f.type.isPlain) {o : Operand} (h : optionalOperand arguments slot = some o) :
    o.IsOf f.type :=
  isOf_of_mem_operandsOf hs hf hplain o (mem_operandsOf_of_optionalOperand h)

/-- The operand of a slot that must be bound is of the type of its formal. -/
theorem isOf_of_operandOf (hs : s.Typed vars arguments) (hf : s.formal? slot = some f)
    (hplain : f.type.isPlain) {o : Operand} (h : operandOf arguments slot = .ok o) :
    o.IsOf f.type :=
  isOf_of_optionalOperand hs hf hplain (optionalOperand_of_operandOf h)

/-- The bounds among the arguments are of the type of their formals. -/
theorem isOf_of_mem_boundsOf {g : Formal} (hs : s.Typed vars arguments)
    (hleast : s.formal? "min" = some f) (hgreatest : s.formal? "max" = some g)
    (htype : f.type = g.type) (hplain : g.type.isPlain) :
    ∀ o ∈ (boundsOf arguments).operands, o.IsOf g.type := by
  intro o ho
  rcases List.mem_append.mp ho with ho | ho
  · exact htype ▸ isOf_of_optionalOperand hs hleast (htype ▸ hplain) (Option.mem_toList.mp ho)
  · exact isOf_of_optionalOperand hs hgreatest hplain (Option.mem_toList.mp ho)

/-- The tests of the matchers bound to a slot are settled. -/
theorem settled_of_testsOf (harguments : SettledAll arguments) {tests : List Test}
    (h : testsOf arguments slot = .ok tests) : ∀ t ∈ tests, t.Settled := by
  intro t ht
  obtain ⟨a, ha, m, hvalue, rfl⟩ := exists_of_mem_testsOf h ht
  have hsettled := harguments a ha
  rwa [hvalue] at hsettled

/-- A test of the input is settled when it is for an input of the type of its formal. -/
theorem settled_of_inputTest {make : Operand → Test} {body : RuleBody} (hs : s.Typed vars arguments)
    (hf : s.formal? "input" = some f) (hplain : f.type.isPlain)
    (h : inputTest make arguments = .ok body) (hmake : ∀ o, o.IsOf f.type → (make o).Settled) :
    body.Settled := by
  obtain ⟨input, hinput, h⟩ := bind_eq_ok.mp h
  obtain rfl := Except.ok.inj h
  exact hmake input (isOf_of_operandOf hs hf hplain hinput)

/-- An action on the input is no test. -/
theorem settled_of_inputAction {make : Operand → Action Param} {body : RuleBody}
    (h : inputAction make arguments = .ok body) : body.Settled := by
  obtain ⟨input, -, h⟩ := bind_eq_ok.mp h
  obtain rfl := Except.ok.inj h
  trivial

/-- A built-in body is settled when its arguments have the types its factory declares. -/
theorem settled_of_build {b : Builtin} {body : RuleBody}
    (hs : (Registry.builtinFactory b).signature.Typed vars arguments)
    (harguments : SettledAll arguments) (h : b.build arguments = .ok body) : body.Settled := by
  cases b with
  | exact | stringEquals =>
    obtain ⟨input, against, hinput, hagainst, rfl⟩ := bind_bind_eq_ok.mp h
    have hinput := isOf_of_operandOf hs rfl rfl hinput
    have hagainst := isOf_of_operandOf hs rfl rfl hagainst
    exact .bind (Operand.settles_readString hinput (by simp [Test.operands])) fun _ =>
      .bind (Operand.settles_readString hagainst (by simp [Test.operands])) fun _ => .pure _ _
  | regex =>
    obtain ⟨pattern, input, hpattern, hinput, rfl⟩ := bind_bind_eq_ok.mp h
    have hinput := isOf_of_operandOf hs rfl rfl hinput
    obtain ⟨o, ho, hsource⟩ := exists_of_patternOf hpattern
    have ho := isOf_of_operandOf hs rfl rfl ho
    exact .bind (Operand.settles_readString hinput List.mem_cons_self) fun _ =>
      .bind (PatternSource.settles_program ho hsource (List.subset_cons_self ..)) fun _ =>
        .pure _ _
  | intRange =>
    refine settled_of_inputTest hs rfl rfl h fun input hinput => ?_
    have hbounds := isOf_of_mem_boundsOf hs rfl rfl rfl rfl
    exact .bind (Operand.settles_readInt hinput List.mem_cons_self) fun value =>
      Bounds.settles_hold _ value fun o ho =>
        Operand.settles_readInt (hbounds o ho) (List.mem_cons_of_mem _ ho)
  | realRange =>
    refine settled_of_inputTest hs rfl rfl h fun input hinput => ?_
    have hbounds := isOf_of_mem_boundsOf hs rfl rfl rfl rfl
    refine .bind (Operand.settles_readReal hinput List.mem_cons_self) fun value => ?_
    split
    · exact .pure _ _
    · exact Bounds.settles_hold _ value fun o ho =>
        Operand.settles_readReal (hbounds o ho) (List.mem_cons_of_mem _ ho)
  | length =>
    refine settled_of_inputTest hs rfl rfl h fun input hinput => ?_
    have hbounds := isOf_of_mem_boundsOf hs rfl rfl rfl rfl
    exact .bind (Operand.settles_readString hinput List.mem_cons_self) fun found =>
      Bounds.settles_hold _ _ fun o ho =>
        Operand.settles_readInt (hbounds o ho) (List.mem_cons_of_mem _ ho)
  | isInt | isReal | empty =>
    refine settled_of_inputTest hs rfl rfl h fun input hinput => ?_
    exact .bind (Operand.settles_readString hinput List.mem_cons_self) fun _ => .pure _ _
  | not =>
    obtain ⟨tests, htests, h⟩ := bind_eq_ok.mp h
    cases tests with
    | nil => contradiction
    | cons inner rest =>
      obtain rfl := Except.ok.inj h
      have hinner := settled_of_testsOf harguments htests inner List.mem_cons_self
      exact .bind hinner fun _ => .pure _ _
  | all =>
    obtain ⟨tests, htests, h⟩ := bind_eq_ok.mp h
    obtain rfl := Except.ok.inj h
    exact Test.settles_runAll (settled_of_testsOf harguments htests)
  | any =>
    obtain ⟨tests, htests, h⟩ := bind_eq_ok.mp h
    obtain rfl := Except.ok.inj h
    exact Test.settles_runAny (settled_of_testsOf harguments htests)
  | oneOf =>
    refine settled_of_inputTest hs rfl rfl h fun input hinput => ?_
    have hformal : (Registry.builtinFactory .oneOf).signature.formal? "options" =
        some (Formal.single "options" .string).array := rfl
    have hoptions := isOf_of_mem_operandsOf hs hformal rfl
    exact .bind (Operand.settles_readString hinput List.mem_cons_self) fun text =>
      Operand.settles_anyReads text hoptions (List.subset_cons_self ..)
  | literal =>
    obtain ⟨value, -, h⟩ := bind_eq_ok.mp h
    obtain rfl := Except.ok.inj h
    trivial
  | trim | upper | lower | clampInt => exact settled_of_inputAction h
  | concat =>
    obtain rfl := Except.ok.inj h
    trivial
  | regexReplace =>
    obtain ⟨input, -, h⟩ := bind_eq_ok.mp h
    obtain ⟨pattern, replacement, -, -, rfl⟩ := bind_bind_eq_ok.mp h
    trivial

/-- A built-in body is determined by its identifier. -/
theorem eq_of_id_eq {b b' : Builtin} (h : b.id = b'.id) : b = b' := by
  have hnodup : (list.map id).Nodup := by decide +kernel
  have hmem (b : Builtin) : b ∈ list := by cases b <;> decide
  exact List.inj_on_of_nodup_map hnodup (hmem b) (hmem b') h

end Builtin

/-! ## Rules that factories build -/

/-- A registry in which native bodies are bound by the built-in factories alone. -/
def Registry.BindsBuiltins (r : Registry) : Prop :=
  ∀ f ∈ r.factories, ∀ id, f.body = .native id → ∃ b, f = builtinFactory b

/-- A built-in factory builds a settled rule from valid arguments. -/
theorem Builtin.settled_of_buildNative {b : Builtin} {env : Environment} {arguments : List Argument}
    {i : Instance} (hs : (Registry.builtinFactory b).signature.Typed env.vars arguments)
    (harguments : SettledAll arguments)
    (h : (Registry.builtinFactory b).signature.buildNative env b.id arguments = .ok i) :
    i.toParam.Settled := by
  obtain ⟨native, body, hnative, hbody, -, rfl⟩ := Signature.buildNative_eq_ok.mp h
  obtain rfl : native = b := eq_of_id_eq (by simpa using List.find?_some hnative)
  have hsettled := settled_of_build hs harguments hbody
  cases body with
  | test t => exact hsettled
  | action a => trivial

/-- A tree whose root yields a settled argument makes a settled rule. -/
theorem Signature.settled_of_adopt {s : Signature} {env : Environment}
    {arguments yielded : List Argument} {i : Instance} (h : s.adopt env arguments yielded = .ok i)
    (hyielded : SettledAll yielded) : i.toParam.Settled := by
  obtain ⟨root, rule, rfl, hvalue, -, rfl⟩ := adopt_eq_ok.mp h
  have hrule := (hyielded root List.mem_cons_self).convert hvalue
  cases rule with
  | matcher m => exact hrule
  | replacer r => trivial

namespace Node

variable {r : Registry} {env : Environment} {optimize : Bool}

mutual

/-- A linked node yields settled arguments when it is given such. -/
theorem settled_of_evaluate (hr : r.Linked) (hbinds : r.BindsBuiltins) (n : Node)
    (hn : n.Linked r) {arguments yielded : List Argument} (harguments : SettledAll arguments)
    (h : n.evaluate env optimize arguments = .ok yielded) : SettledAll yielded := by
  cases n with
  | constant slot value =>
    obtain rfl := Except.ok.inj h
    exact List.forall_mem_singleton.mpr trivial
  | cell slot target =>
    obtain rfl := Except.ok.inj h
    exact List.forall_mem_singleton.mpr trivial
  | «variable» slot argument =>
    obtain rfl := Except.ok.inj h
    exact Bound.forall_value_of_valuesOf harguments slot
  | call slot factory children =>
    obtain ⟨bound, hbound, h⟩ := bind_eq_ok.mp h
    obtain ⟨rule, hrule, h⟩ := bind_eq_ok.mp h
    obtain rfl := Except.ok.inj h
    have hgiven : SettledAll (if optimize && allClosed children then [] else arguments) := by
      split
      · exact List.forall_mem_nil _
      · exact harguments
    have hbound := settled_of_evaluateAll hr hbinds children hn.2 hgiven hbound
    exact List.forall_mem_singleton.mpr
      (settled_of_instantiate hr hbinds factory hn.1 hbound hrule)

/-- Linked nodes yield settled arguments when they are given such. -/
theorem settled_of_evaluateAll (hr : r.Linked) (hbinds : r.BindsBuiltins) (nodes : List Node)
    (hnodes : LinkedAll r nodes) {arguments yielded : List Argument}
    (harguments : SettledAll arguments)
    (h : evaluateAll env optimize arguments nodes = .ok yielded) : SettledAll yielded := by
  cases nodes with
  | nil =>
    obtain rfl := Except.ok.inj h
    exact List.forall_mem_nil _
  | cons n rest =>
    obtain ⟨first, more, hfirst, hmore, rfl⟩ := bind_bind_eq_ok.mp h
    exact List.forall_mem_append.mpr
      ⟨settled_of_evaluate hr hbinds n hnodes.1 harguments hfirst,
        settled_of_evaluateAll hr hbinds rest hnodes.2 harguments hmore⟩

/-- A registered factory builds a settled rule from settled arguments. -/
theorem settled_of_instantiate (hr : r.Linked) (hbinds : r.BindsBuiltins) (f : FactoryOf Node)
    (hf : r.factory? f.name = some f) {arguments : List Argument} {i : Instance}
    (harguments : SettledAll arguments) (h : instantiate env optimize f arguments = .ok i) :
    i.toParam.Settled := by
  obtain ⟨signature, body⟩ := f
  obtain ⟨valid, hvalid, h⟩ := bind_eq_ok.mp h
  have hsettled : SettledAll valid :=
    Signature.forall_value_of_validate (fun _ _ _ hp => hp.convert) harguments hvalid
  exact settled_of_build hr hbinds body hf (Signature.typed_of_validate hvalid) hsettled h

/-- The body of a registered factory builds a settled rule from valid settled arguments. -/
theorem settled_of_build (hr : r.Linked) (hbinds : r.BindsBuiltins) (body : FactoryBody Node)
    {s : Signature} (hf : r.factory? s.name = some ⟨s, body⟩) {arguments : List Argument}
    {i : Instance} (hs : s.Typed env.vars arguments) (harguments : SettledAll arguments)
    (h : build env optimize s arguments body = .ok i) : i.toParam.Settled := by
  cases body with
  | native id =>
    obtain ⟨b, hb⟩ := hbinds _ (List.mem_of_find?_eq_some hf) id rfl
    obtain ⟨rfl, rfl⟩ : s = (Registry.builtinFactory b).signature ∧ id = b.id := by
      cases hb
      exact ⟨rfl, rfl⟩
    exact Builtin.settled_of_buildNative hs harguments h
  | tree root =>
    obtain ⟨yielded, hyielded, h⟩ := bind_eq_ok.mp h
    have hroot : root.Linked r := hr _ _ hf root rfl
    exact Signature.settled_of_adopt h
      (settled_of_evaluate hr hbinds root hroot harguments hyielded)

end

end Node

namespace Workbench

/-- An argument made of values, variables, cells, and rules that were built from such arguments by
name, each on a workbench on which native bodies are bound by the built-in factories alone; trees
may be optimized or not, and rules may be kept there. -/
inductive Obtained : Param → Prop
  | constant (value : Constant) : Obtained (.constant value)
  | variable (v : Variable) : Obtained (.variable v)
  | cell (target : CellRange) : Obtained (.cell target)
  | verbatim {p : Param} (h : Obtained p) : Obtained (.replacer (Replacer.verbatim p))
  | rule {w : Workbench} {vars : Variables} {name : String} {optimize : Bool}
      {arguments : List Argument} {i : Instance} (hw : w.Sound) (hbinds : w.registry.BindsBuiltins)
      (harguments : ∀ a ∈ arguments, Obtained a.value)
      (h : (w.buildRegistered vars name optimize arguments).answer = .ok i) : Obtained i.toParam

namespace Obtained

variable {p : Param}

/-- What is built lists whatever it reads. -/
theorem accountable (h : Obtained p) : p.Accountable := by
  induction h with
  | constant | «variable» | cell => exact Param.accountable_of_bodyOperands_eq_nil rfl
  | verbatim => exact Param.accountable_verbatim _
  | rule hw _ _ h ih =>
    rw [hw.answer_buildRegistered, Registry.instantiate_eq_ok] at h
    obtain ⟨f, -, hrule⟩ := h
    exact (Node.accountable_of_instantiate f ih hrule).1

/-- What is built is settled. -/
theorem settled (h : Obtained p) : p.Settled := by
  induction h with
  | constant | «variable» | cell | verbatim => trivial
  | rule hw hbinds _ h ih =>
    rw [hw.answer_buildRegistered, Registry.instantiate_eq_ok] at h
    obtain ⟨f, hf, hrule⟩ := h
    obtain rfl := Registry.name_of_factory? hf
    exact Node.settled_of_instantiate hw.registry hbinds f hf ih hrule

/-- A matcher that lists no address and holds no variable never fails, and accepts either in every
context or in none. -/
theorem exists_accepts_eq {m : Matcher} (h : Obtained (.matcher m))
    (hreferences : m.references = []) (hcaptured : Param.capturedBy m.arguments = []) :
    ∃ accepted, ∀ ctx, m.accepts ctx = .ok accepted := by
  refine h.settled fun o ho => ?_
  rw [← hreferences, ← hcaptured]
  exact h.accountable o ho

end Obtained

/-- A factory of matchers that accept when a digit is at least a number given as text. -/
def digitAtLeastDefinition : FactoryDefinition where
  name := "DigitAtLeast"
  description := ""
  output := .matcher
  formals := [.single "digit" .char, .single "least" .string]
  body := .tree (.call "root" "IntRange" [.variable "input" "digit", .variable "min" "least"])

/-- The workbench on which the factory is registered. -/
def digitBench : Workbench :=
  (new .withBuiltins).after ([.define digitAtLeastDefinition, .register 0].map fun request =>
    (.empty, request))

/-- A matcher built on `digitBench`: its digit was a text, a character and a whole number in turn,
and its bound a text and a whole number. -/
def sevenAtLeastFive : Matcher where
  name := "DigitAtLeast"
  arguments := [⟨"digit", .constant (.char '7')⟩, ⟨"least", .constant (.string " 5 ")⟩]
  references := []
  body := .intRange (.constant (.int 7)) ⟨some (.constant (.int 5)), none⟩

/-- The matcher `sevenAtLeastFive` is obtained, reads nothing, and accepts everywhere. -/
theorem exists_sevenAtLeastFive_accepts_eq :
    Obtained (.matcher sevenAtLeastFive) ∧ sevenAtLeastFive.references = [] ∧
      Param.capturedBy sevenAtLeastFive.arguments = [] ∧
        ∃ accepted, ∀ ctx, sevenAtLeastFive.accepts ctx = .ok accepted := by
  let g : Factory := .define "DigitAtLeast" "" .matcher
    [.single "digit" .char, .single "least" .string] (.tree (.call "root"
      (Registry.builtinFactory .intRange) [.variable "input" "digit", .variable "min" "least"]))
  let arguments : List Argument :=
    [⟨"digit", .constant (.string "7")⟩, ⟨"least", .constant (.string " 5 ")⟩]
  have hreachable : digitBench.Reachable := ⟨_, rfl⟩
  have hfactories : digitBench.registry.factories =
      Builtin.list.map Registry.builtinFactory ++ [g] := rfl
  have hbinds : digitBench.registry.BindsBuiltins := by
    intro f hf id hid
    rw [hfactories] at hf
    rcases List.mem_append.mp hf with hf | hf
    · obtain ⟨b, -, rfl⟩ := List.mem_map.mp hf
      exact ⟨b, rfl⟩
    · obtain rfl := List.mem_singleton.mp hf
      contradiction
  have hbuilt : (digitBench.buildRegistered .empty "DigitAtLeast" true arguments).answer =
      .ok (.matcher sevenAtLeastFive) := rfl
  have hobtained : Obtained (.matcher sevenAtLeastFive) :=
    .rule hreachable.sound hbinds (by simpa [arguments] using ⟨.constant _, .constant _⟩) hbuilt
  exact ⟨hobtained, rfl, rfl, hobtained.exists_accepts_eq rfl rfl⟩

end Workbench

end GridAudit
