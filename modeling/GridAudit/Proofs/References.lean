import GridAudit.Registry
import GridAudit.Proofs.Operands
import GridAudit.Proofs.Validation

/-!
# The addresses a rule lists are all it reads

A rule keeps the list of addresses it may read, from which the dependencies between cells are found,
so a read outside the list would lose a dependency without notice. For rules that factories built
over the built-in bodies, nested to any depth, the list is complete: contexts that agree on the
listed addresses and on variables give the rule one outcome. The variables a rule reads are among
those its arguments hold in the same way.
-/

namespace GridAudit

/-! ## What arguments hold -/

namespace Param

mutual

/-- The variables an argument holds, also within the arguments of a rule. -/
def captured : Param → List Variable
  | .constant _ | .cell _ => []
  | .variable v => [v]
  | .matcher ⟨_, arguments, _, _⟩ => capturedBy arguments
  | .replacer ⟨_, arguments, _, _⟩ => capturedBy arguments

/-- The variables that a list of arguments holds. -/
def capturedBy : List (Bound Param) → List Variable
  | [] => []
  | ⟨_, value⟩ :: rest => value.captured ++ capturedBy rest

end

/-- A list of arguments holds the variables of its members. -/
theorem capturedBy_eq (arguments : List Argument) :
    capturedBy arguments = arguments.flatMap fun a => a.value.captured := by
  induction arguments with
  | nil => rfl
  | cons a rest ih => simp [capturedBy, ih]

/-- A variable that one argument holds is held by the list. -/
theorem mem_capturedBy {arguments : List Argument} {a : Argument} (ha : a ∈ arguments)
    {v : Variable} (hv : v ∈ a.value.captured) : v ∈ capturedBy arguments := by
  rw [capturedBy_eq]
  exact List.mem_flatMap.mpr ⟨a, ha, hv⟩

/-- A matcher holds the variables of its arguments. -/
@[simp] theorem captured_matcher (m : Matcher) :
    (Param.matcher m).captured = capturedBy m.arguments := rfl

/-- A replacer holds the variables of its arguments. -/
@[simp] theorem captured_replacer (r : Replacer) :
    (Param.replacer r).captured = capturedBy r.arguments := rfl

/-- An argument that serves as a replacer holds the same variables. -/
theorem captured_asReplacer (p : Param) : (Param.replacer p.asReplacer).captured = p.captured := by
  cases p <;> simp [asReplacer, Replacer.verbatim, capturedBy]

end Param

/-- Leaving out repeats loses no address. -/
theorem CellRange.mem_distinct {r : CellRange} {rs : List CellRange} :
    r ∈ distinct rs ↔ r ∈ rs :=
  (mem_foldl_unless_contains (f := id)).trans (by simp)

/-- Collected addresses are the inherited ones and those of the arguments. -/
theorem mem_collectReferences {inherited : List CellRange} {arguments : List Argument}
    {r : CellRange} :
    r ∈ collectReferences inherited arguments ↔
      r ∈ inherited ∨ ∃ a ∈ arguments, r ∈ a.value.references := by
  simp only [collectReferences, CellRange.mem_distinct, List.mem_append, List.mem_flatMap]

/-! ## Bodies whose operands are accounted for -/

/-- An operand whose value hangs on nothing but the listed addresses and variables. -/
def Operand.Covered (references : List CellRange) (captured : List Variable) : Operand → Prop
  | .constant _ | .rule _ _ => True
  | .variable v => v ∈ captured
  | .cell target => target ∈ references

/-- A longer list of addresses and variables covers what the shorter one did. -/
theorem Operand.Covered.mono {references references' : List CellRange}
    {captured captured' : List Variable} {o : Operand} (h : o.Covered references captured)
    (hreferences : references ⊆ references') (hcaptured : captured ⊆ captured') :
    o.Covered references' captured' := by
  cases o with
  | constant | rule => trivial
  | «variable» v => exact hcaptured h
  | cell target => exact hreferences h

/-- A covered operand has the same value where the listed addresses and variables have. -/
theorem Operand.Covered.resolve_eq {references : List CellRange} {captured : List Variable}
    {o : Operand} (h : o.Covered references captured) {ctx ctx' : Context}
    (hreads : ∀ r ∈ references, ctx.read r = ctx'.read r)
    (hvars : ∀ v ∈ captured, ctx.vars.get v = ctx'.vars.get v) :
    o.resolve ctx = o.resolve ctx' := by
  cases o with
  | constant | rule => rfl
  | «variable» v => simp only [Operand.resolve, hvars v h]
  | cell target => simp only [Operand.resolve, hreads target h]

namespace Param

/-- An argument covers its own operand. -/
theorem covered_operand (p : Param) : p.operand.Covered p.references p.captured := by
  cases p with
  | constant | matcher | replacer => trivial
  | «variable» v => exact List.mem_singleton_self v
  | cell target => exact List.mem_singleton_self target

/-- The operands of the body of an argument that is a rule. -/
def bodyOperands : Param → List Operand
  | .constant _ | .variable _ | .cell _ => []
  | .matcher m => m.body.operands
  | .replacer r => r.body.operands

/-- An argument that lists whatever its body reads. -/
def Accountable (p : Param) : Prop := ∀ o ∈ p.bodyOperands, o.Covered p.references p.captured

/-- An argument without a body is accountable. -/
theorem accountable_of_bodyOperands_eq_nil {p : Param} (h : p.bodyOperands = []) :
    p.Accountable := by
  simp [Accountable, h]

/-- A replacer that puts an argument as it is reads that argument alone. -/
theorem accountable_verbatim (p : Param) : (Param.replacer (Replacer.verbatim p)).Accountable := by
  intro o ho
  have hvalue : (⟨"value", p⟩ : Argument) ∈ [⟨"value", p⟩] := List.mem_singleton_self _
  obtain rfl : o = p.operand := List.mem_singleton.mp ho
  exact p.covered_operand.mono (fun r hr => mem_collectReferences.mpr (.inr ⟨_, hvalue, hr⟩))
    fun v hv => mem_capturedBy hvalue hv

/-- An accountable argument is accountable as a replacer. -/
theorem Accountable.asReplacer {p : Param} (h : p.Accountable) :
    (Param.replacer p.asReplacer).Accountable := by
  cases p with
  | replacer => exact h
  | constant | «variable» | cell | matcher => exact accountable_verbatim _

/-- Converting an argument keeps it accountable and the variables it holds. -/
theorem Accountable.convert {vars : Variables} {p q : Param} {type : ValueType}
    (h : p.Accountable) (hq : p.convert vars type = some q) :
    q.Accountable ∧ q.captured = p.captured := by
  have hplain (hq : p.convertPlain vars type = some q) :
      q.Accountable ∧ q.captured = p.captured := by
    cases p with
    | constant value =>
      obtain ⟨c, -, rfl⟩ := Option.map_eq_some_iff.mp hq
      exact ⟨accountable_of_bodyOperands_eq_nil rfl, rfl⟩
    | «variable» v =>
      simp only [convertPlain, Option.ite_none_right_eq_some, Option.some.injEq] at hq
      obtain ⟨-, rfl⟩ := hq
      exact ⟨h, rfl⟩
    | cell target =>
      obtain rfl : Param.cell target = q := Option.some.inj hq
      exact ⟨h, rfl⟩
    | matcher | replacer => simp [convertPlain] at hq
  cases type with
  | string | int | real | char => exact hplain hq
  | matcher =>
    cases p with
    | matcher m =>
      obtain rfl : Param.matcher m = q := Option.some.inj hq
      exact ⟨h, rfl⟩
    | constant | «variable» | cell | replacer => simp [Param.convert] at hq
  | replacer =>
    obtain rfl : Param.replacer p.asReplacer = q := Option.some.inj hq
    exact ⟨h.asReplacer, captured_asReplacer p⟩

end Param

/-! ## Built-in bodies -/

/-- The operands of a body of either kind. -/
def RuleBody.operands : RuleBody → List Operand
  | .test t => t.operands
  | .action a => a.operands

namespace Builtin

variable {arguments : List Argument} {slot : String}

/-- The operand of a slot that must be bound is the first one of the slot. -/
theorem optionalOperand_of_operandOf {o : Operand} (h : operandOf arguments slot = .ok o) :
    optionalOperand arguments slot = some o := by
  unfold operandOf at h
  split at h
  · rename_i found hfound
    rw [hfound, Except.ok.inj h]
  · contradiction

/-- The first operand of a slot is one of the operands of the slot. -/
theorem mem_operandsOf_of_optionalOperand {o : Operand}
    (h : optionalOperand arguments slot = some o) : o ∈ operandsOf arguments slot := by
  obtain ⟨a, ha, rfl⟩ := Option.map_eq_some_iff.mp h
  have hbound : a ∈ arguments.filter fun b => b.slot = slot :=
    List.mem_filter.mpr ⟨List.mem_of_find?_eq_some ha, by simpa using List.find?_some ha⟩
  exact List.mem_map_of_mem (List.mem_map_of_mem hbound)

/-- A pattern is made of the operand of its slot. -/
theorem exists_of_patternOf {whole : Bool} {source : PatternSource}
    (h : patternOf whole arguments = .ok source) :
    ∃ o, operandOf arguments "pattern" = .ok o ∧
      PatternSource.ofOperand? whole o = some source := by
  obtain ⟨o, ho, h⟩ := bind_eq_ok.mp h
  split at h
  · rename_i pattern hpattern
    obtain rfl : pattern = source := Except.ok.inj h
    exact ⟨o, ho, hpattern⟩
  · contradiction

/-- The tests of a slot are those of matchers among the arguments. -/
theorem exists_of_mem_testsOf {tests : List Test} (h : testsOf arguments slot = .ok tests)
    {t : Test} (ht : t ∈ tests) : ∃ a ∈ arguments, ∃ m, a.value = .matcher m ∧ m.body = t := by
  obtain ⟨p, hp, hbody⟩ := exists_of_mapM_eq_ok h t ht
  obtain ⟨a, ha, rfl⟩ := Bound.exists_of_mem_valuesOf hp
  refine ⟨a, ha, ?_⟩
  cases hvalue : a.value with
  | matcher m => exact ⟨m, rfl, by simpa [hvalue, Param.asMatcher] using hbody⟩
  | constant | «variable» | cell | replacer => simp [hvalue, Param.asMatcher] at hbody

/-- An operand that a list of arguments gives to a body: that of an argument, or one of the body of
an argument. -/
def Offered (arguments : List Argument) (o : Operand) : Prop :=
  ∃ a ∈ arguments, o = a.value.operand ∨ o ∈ a.value.bodyOperands

/-- Every operand of a slot is offered. -/
theorem offered_of_mem_operandsOf {o : Operand} (h : o ∈ operandsOf arguments slot) :
    Offered arguments o := by
  obtain ⟨p, hp, rfl⟩ := List.mem_map.mp h
  obtain ⟨a, ha, rfl⟩ := Bound.exists_of_mem_valuesOf hp
  exact ⟨a, ha, .inl rfl⟩

/-- The first operand of a slot is offered. -/
theorem offered_of_optionalOperand {o : Operand} (h : optionalOperand arguments slot = some o) :
    Offered arguments o :=
  offered_of_mem_operandsOf (mem_operandsOf_of_optionalOperand h)

/-- The operand of a slot that must be bound is offered. -/
theorem offered_of_operandOf {o : Operand} (h : operandOf arguments slot = .ok o) :
    Offered arguments o :=
  offered_of_optionalOperand (optionalOperand_of_operandOf h)

/-- The operands of the bounds are offered. -/
theorem offered_of_mem_boundsOf {o : Operand} (h : o ∈ (boundsOf arguments).operands) :
    Offered arguments o := by
  rcases List.mem_append.mp h with h | h
  · exact offered_of_optionalOperand (Option.mem_toList.mp h)
  · exact offered_of_optionalOperand (Option.mem_toList.mp h)

/-- The operand of a pattern is offered. -/
theorem offered_of_patternOf {whole : Bool} {source : PatternSource}
    (h : patternOf whole arguments = .ok source) : ∀ o ∈ source.operands, Offered arguments o := by
  obtain ⟨operand, hoperand, hpattern⟩ := exists_of_patternOf h
  have hoffered := offered_of_operandOf hoperand
  cases operand with
  | constant value =>
    obtain ⟨program, -, rfl⟩ := Option.map_eq_some_iff.mp hpattern
    simp [PatternSource.operands]
  | «variable» | cell | rule =>
    obtain rfl := Option.some.inj hpattern
    simpa [PatternSource.operands] using hoffered

/-- The operands of the tests of a slot are offered. -/
theorem offered_of_testsOf {tests : List Test} (h : testsOf arguments slot = .ok tests) :
    ∀ t ∈ tests, ∀ o ∈ t.operands, Offered arguments o := by
  intro t ht o ho
  obtain ⟨a, ha, m, hvalue, rfl⟩ := exists_of_mem_testsOf h ht
  exact ⟨a, ha, .inr (by rwa [hvalue])⟩

/-- The operands of a test of the input, when its other operands are offered. -/
theorem offered_of_inputTest {make : Operand → Test} {body : RuleBody} {others : List Operand}
    (h : inputTest make arguments = .ok body)
    (hmake : ∀ input, (make input).operands = input :: others)
    (hothers : ∀ o ∈ others, Offered arguments o) : ∀ o ∈ body.operands, Offered arguments o := by
  obtain ⟨input, hinput, h⟩ := bind_eq_ok.mp h
  obtain rfl := Except.ok.inj h
  simpa [RuleBody.operands, hmake] using ⟨offered_of_operandOf hinput, hothers⟩

/-- The operands of an action on the input, when its other operands are offered. -/
theorem offered_of_inputAction {make : Operand → Action Param} {body : RuleBody}
    {others : List Operand} (h : inputAction make arguments = .ok body)
    (hmake : ∀ input, (make input).operands = input :: others)
    (hothers : ∀ o ∈ others, Offered arguments o) : ∀ o ∈ body.operands, Offered arguments o := by
  obtain ⟨input, hinput, h⟩ := bind_eq_ok.mp h
  obtain rfl := Except.ok.inj h
  simpa [RuleBody.operands, hmake] using ⟨offered_of_operandOf hinput, hothers⟩

/-- A built-in body reads nothing but what its arguments offer. -/
theorem offered_of_build {b : Builtin} {body : RuleBody} (h : b.build arguments = .ok body) :
    ∀ o ∈ body.operands, Offered arguments o := by
  have hnone : ∀ o ∈ ([] : List Operand), Offered arguments o := by simp
  cases b with
  | exact | stringEquals =>
    obtain ⟨input, against, hinput, hagainst, rfl⟩ := bind_bind_eq_ok.mp h
    simpa [RuleBody.operands, Test.operands] using
      ⟨offered_of_operandOf hinput, offered_of_operandOf hagainst⟩
  | regex =>
    obtain ⟨pattern, input, hpattern, hinput, rfl⟩ := bind_bind_eq_ok.mp h
    simpa [RuleBody.operands, Test.operands] using
      ⟨offered_of_operandOf hinput, offered_of_patternOf hpattern⟩
  | intRange | realRange | length =>
    exact offered_of_inputTest h (fun _ => rfl) fun _ => offered_of_mem_boundsOf
  | isInt | isReal | empty => exact offered_of_inputTest h (fun _ => rfl) hnone
  | not =>
    obtain ⟨tests, htests, h⟩ := bind_eq_ok.mp h
    cases tests with
    | nil => contradiction
    | cons inner rest =>
      obtain rfl := Except.ok.inj h
      exact offered_of_testsOf htests inner List.mem_cons_self
  | all | any =>
    obtain ⟨tests, htests, h⟩ := bind_eq_ok.mp h
    obtain rfl := Except.ok.inj h
    intro o ho
    have hmem : o ∈ tests.flatMap Test.operands := by
      rw [← Test.operandsOfAll_eq]
      exact ho
    obtain ⟨t, ht, ho⟩ := List.mem_flatMap.mp hmem
    exact offered_of_testsOf htests t ht o ho
  | oneOf => exact offered_of_inputTest h (fun _ => rfl) fun _ => offered_of_mem_operandsOf
  | literal =>
    obtain ⟨value, hvalue, h⟩ := bind_eq_ok.mp h
    obtain rfl := Except.ok.inj h
    simpa [RuleBody.operands, Action.operands] using offered_of_operandOf hvalue
  | trim | upper | lower => exact offered_of_inputAction h (fun _ => rfl) hnone
  | concat =>
    obtain rfl := Except.ok.inj h
    exact fun _ => offered_of_mem_operandsOf
  | regexReplace =>
    obtain ⟨input, hinput, h⟩ := bind_eq_ok.mp h
    obtain ⟨pattern, replacement, hpattern, hreplacement, rfl⟩ := bind_bind_eq_ok.mp h
    simpa [RuleBody.operands, Action.operands] using ⟨offered_of_operandOf hinput,
      offered_of_operandOf hreplacement, offered_of_patternOf hpattern⟩
  | clampInt => exact offered_of_inputAction h (fun _ => rfl) fun _ => offered_of_mem_boundsOf

end Builtin

/-! ## Rules that factories build -/

/-- A list of arguments each of which is accountable. -/
def AccountableAll (arguments : List Argument) : Prop := ∀ a ∈ arguments, a.value.Accountable

/-- What accountable arguments offer is covered by the addresses and variables of them all. -/
theorem Builtin.Offered.covered {arguments : List Argument} {o : Operand}
    (h : Builtin.Offered arguments o) (harguments : AccountableAll arguments) :
    o.Covered (collectReferences [] arguments) (Param.capturedBy arguments) := by
  obtain ⟨a, ha, ho⟩ := h
  have hcovered : o.Covered a.value.references a.value.captured := by
    rcases ho with rfl | ho
    · exact a.value.covered_operand
    · exact harguments a ha o ho
  refine hcovered.mono (fun r hr => ?_) (fun v hv => Param.mem_capturedBy ha hv)
  exact mem_collectReferences.mpr (.inr ⟨a, ha, hr⟩)

/-- The rule of a body is accountable when the arguments are and offer all that the body reads. -/
theorem RuleBody.accountable_toInstance {body : RuleBody} {arguments : List Argument}
    (name : String) (hbody : ∀ o ∈ body.operands, Builtin.Offered arguments o)
    (harguments : AccountableAll arguments) :
    (body.toInstance name arguments).toParam.Accountable := by
  intro o ho
  cases body with
  | test t => exact (hbody o ho).covered harguments
  | action a => exact (hbody o ho).covered harguments

namespace Instance

/-- A rule as an argument holds the variables of its arguments. -/
theorem captured_toParam (i : Instance) : i.toParam.captured = Param.capturedBy i.arguments := by
  cases i <;> rfl

/-- A relabelled rule has the arguments it was given. -/
@[simp] theorem arguments_relabel (name : String) (arguments : List Argument) (i : Instance) :
    (i.relabel name arguments).arguments = arguments := by
  cases i <;> rfl

/-- A relabelled rule is accountable when the new arguments hold the variables of the rule. -/
theorem accountable_relabel {i : Instance} (h : i.toParam.Accountable) (name : String)
    {arguments : List Argument} (hcaptured : i.toParam.captured ⊆ Param.capturedBy arguments) :
    (i.relabel name arguments).toParam.Accountable := by
  have hreferences (r : CellRange) (hr : r ∈ i.toParam.references) :
      r ∈ collectReferences i.toParam.references arguments :=
    mem_collectReferences.mpr (.inl hr)
  intro o ho
  cases i with
  | matcher m => exact (h o ho).mono hreferences hcaptured
  | replacer r => exact (h o ho).mono hreferences hcaptured

end Instance

/-- The rule that an argument is, as an argument, is that argument. -/
theorem Param.toParam_of_toInstance? {p : Param} {i : Instance} (h : p.toInstance? = some i) :
    i.toParam = p := by
  cases p with
  | matcher m | replacer r =>
    obtain rfl := Option.some.inj h
    rfl
  | constant | «variable» | cell => simp [Param.toInstance?] at h

namespace Signature

/-- Converted arguments are accountable and hold the same variables. -/
theorem accountable_of_coerceAll {s : Signature} {vars : Variables}
    {arguments valid : List Argument} (h : s.coerceAll vars arguments = .ok valid)
    (harguments : AccountableAll arguments) :
    AccountableAll valid ∧ Param.capturedBy valid = Param.capturedBy arguments := by
  induction arguments generalizing valid with
  | nil =>
    obtain rfl : [] = valid := Except.ok.inj h
    exact ⟨harguments, rfl⟩
  | cons a rest ih =>
    obtain ⟨ha, hrest⟩ := List.forall_mem_cons.mp harguments
    obtain ⟨first, more, hfirst, hmore, rfl⟩ := bind_bind_eq_ok.mp h
    obtain ⟨hvalid, hcaptured⟩ := ih hmore hrest
    obtain ⟨type, value, hconvert, rfl⟩ := exists_convert_of_coerce hfirst
    obtain ⟨hvalue, hsame⟩ := ha.convert hconvert
    refine ⟨List.forall_mem_cons.mpr ⟨hvalue, hvalid⟩, ?_⟩
    simp only [Param.capturedBy, hsame, hcaptured]

/-- A native body builds an accountable rule with the arguments it was given. -/
theorem accountable_of_buildNative {s : Signature} {env : Environment} {id : String}
    {arguments : List Argument} {i : Instance} (h : s.buildNative env id arguments = .ok i)
    (harguments : AccountableAll arguments) : i.toParam.Accountable ∧ i.arguments = arguments := by
  obtain ⟨native, body, -, hbody, -, rfl⟩ := buildNative_eq_ok.mp h
  refine ⟨body.accountable_toInstance s.name (Builtin.offered_of_build hbody) harguments, ?_⟩
  cases body <;> rfl

/-- A tree whose root yields an accountable rule makes an accountable rule, with the arguments of
the factory. -/
theorem accountable_of_adopt {s : Signature} {env : Environment}
    {arguments yielded : List Argument} {i : Instance} (h : s.adopt env arguments yielded = .ok i)
    (hyielded : AccountableAll yielded)
    (hcaptured : Param.capturedBy yielded ⊆ Param.capturedBy arguments) :
    i.toParam.Accountable ∧ i.arguments = arguments := by
  unfold adopt at h
  split at h
  · rename_i root
    split at h
    · rename_i rule hrule
      obtain ⟨value, hconvert, hrule⟩ := Option.bind_eq_some_iff.mp hrule
      obtain rfl := Except.ok.inj h
      have hroot := hyielded root (List.mem_singleton_self root)
      obtain ⟨hvalue, hsame⟩ := hroot.convert hconvert
      rw [← Param.toParam_of_toInstance? hrule] at hvalue hsame
      refine ⟨Instance.accountable_relabel hvalue s.name ?_, by simp⟩
      rw [hsame]
      exact fun v hv => hcaptured (Param.mem_capturedBy (List.mem_singleton_self root) hv)
    · contradiction
  · contradiction

end Signature

namespace Node

variable {env : Environment} {optimize : Bool}

mutual

/-- A node yields accountable arguments when it is given accountable ones, and they hold no other
variables. -/
theorem accountable_of_evaluate (n : Node) {arguments yielded : List Argument}
    (harguments : AccountableAll arguments)
    (h : n.evaluate env optimize arguments = .ok yielded) :
    AccountableAll yielded ∧ Param.capturedBy yielded ⊆ Param.capturedBy arguments := by
  cases n with
  | constant slot value =>
    obtain rfl := Except.ok.inj h
    simp [AccountableAll, Param.Accountable, Param.bodyOperands, Param.capturedBy, Param.captured]
  | cell slot target =>
    obtain rfl := Except.ok.inj h
    simp [AccountableAll, Param.Accountable, Param.bodyOperands, Param.capturedBy, Param.captured]
  | «variable» slot argument =>
    obtain rfl := Except.ok.inj h
    refine ⟨Bound.forall_value_of_valuesOf harguments slot, fun v hv => ?_⟩
    simp only [Param.capturedBy_eq, List.mem_flatMap, List.mem_map] at hv
    obtain ⟨b, ⟨p, hp, rfl⟩, hv⟩ := hv
    obtain ⟨a, ha, rfl⟩ := Bound.exists_of_mem_valuesOf hp
    exact Param.mem_capturedBy ha hv
  | call slot factory children =>
    obtain ⟨bound, hbound, h⟩ := bind_eq_ok.mp h
    obtain ⟨rule, hrule, h⟩ := bind_eq_ok.mp h
    obtain rfl := Except.ok.inj h
    -- A folded call is given nothing, and nothing holds no variable.
    have hgiven : AccountableAll (if optimize && allClosed children then [] else arguments) ∧
        Param.capturedBy (if optimize && allClosed children then [] else arguments) ⊆
          Param.capturedBy arguments := by
      split
      · exact ⟨by simp [AccountableAll], by simp [Param.capturedBy]⟩
      · exact ⟨harguments, fun _ hv => hv⟩
    obtain ⟨haccountable, hcaptured⟩ := accountable_of_evaluateAll children hgiven.1 hbound
    obtain ⟨hvalue, hsubset⟩ := accountable_of_instantiate factory haccountable hrule
    refine ⟨by simpa [AccountableAll] using hvalue, fun v hv => ?_⟩
    rw [Param.capturedBy, Param.capturedBy, List.append_nil] at hv
    exact hgiven.2 (hcaptured (hsubset hv))

/-- The nodes of a list yield accountable arguments when they are given such, and they hold no other
variables. -/
theorem accountable_of_evaluateAll (nodes : List Node) {arguments yielded : List Argument}
    (harguments : AccountableAll arguments)
    (h : evaluateAll env optimize arguments nodes = .ok yielded) :
    AccountableAll yielded ∧ Param.capturedBy yielded ⊆ Param.capturedBy arguments := by
  cases nodes with
  | nil =>
    obtain rfl := Except.ok.inj h
    exact ⟨by simp [AccountableAll], by simp [Param.capturedBy]⟩
  | cons n rest =>
    obtain ⟨first, more, hfirst, hmore, rfl⟩ := bind_bind_eq_ok.mp h
    obtain ⟨haccountable, hcaptured⟩ := accountable_of_evaluate n harguments hfirst
    obtain ⟨haccountable', hcaptured'⟩ := accountable_of_evaluateAll rest harguments hmore
    refine ⟨fun a ha => ?_, ?_⟩
    · exact (List.mem_append.mp ha).elim (haccountable a) (haccountable' a)
    · simp only [Param.capturedBy_eq, List.flatMap_append] at hcaptured hcaptured' ⊢
      exact List.append_subset.mpr ⟨hcaptured, hcaptured'⟩

/-- A factory builds an accountable rule from accountable arguments, and it holds no other
variables. -/
theorem accountable_of_instantiate (f : FactoryOf Node) {arguments : List Argument} {i : Instance}
    (harguments : AccountableAll arguments) (h : instantiate env optimize f arguments = .ok i) :
    i.toParam.Accountable ∧ i.toParam.captured ⊆ Param.capturedBy arguments := by
  obtain ⟨signature, body⟩ := f
  obtain ⟨valid, hvalid, h⟩ := bind_eq_ok.mp h
  obtain ⟨haccountable, hcaptured⟩ :=
    Signature.accountable_of_coerceAll (Signature.coerceAll_of_validate hvalid) harguments
  obtain ⟨hrule, hsame⟩ := accountable_of_build body haccountable h
  refine ⟨hrule, ?_⟩
  rw [i.captured_toParam, hsame, hcaptured]
  exact fun _ hv => hv

/-- A body builds an accountable rule from valid accountable arguments, and it has these
arguments. -/
theorem accountable_of_build (body : FactoryBody Node) {signature : Signature}
    {arguments : List Argument} {i : Instance} (harguments : AccountableAll arguments)
    (h : build env optimize signature arguments body = .ok i) :
    i.toParam.Accountable ∧ i.arguments = arguments := by
  cases body with
  | native id => exact Signature.accountable_of_buildNative h harguments
  | tree root =>
    obtain ⟨yielded, hyielded, h⟩ := bind_eq_ok.mp h
    obtain ⟨haccountable, hcaptured⟩ := accountable_of_evaluate root harguments hyielded
    exact Signature.accountable_of_adopt h haccountable hcaptured

end

end Node

/-! ## Completeness -/

/-- An argument made of values, variables, cells, and rules that factories built over the built-in
bodies from such arguments, or that only put such an argument. -/
inductive Param.Built : Param → Prop
  | constant (value : Constant) : Built (.constant value)
  | variable (v : Variable) : Built (.variable v)
  | cell (target : CellRange) : Built (.cell target)
  | verbatim {p : Param} (h : Built p) : Built (.replacer (Replacer.verbatim p))
  | rule {f : Factory} {vars : Variables} {optimize : Bool} {arguments : List Argument}
      {i : Instance} (harguments : ∀ a ∈ arguments, Built a.value)
      (h : f.instantiate ⟨Builtin.list, vars⟩ optimize arguments = .ok i) : Built i.toParam

/-- What factories build lists whatever it reads. -/
theorem Param.Built.accountable {p : Param} (h : p.Built) : p.Accountable := by
  induction h with
  | constant | «variable» | cell => exact accountable_of_bodyOperands_eq_nil rfl
  | verbatim => exact accountable_verbatim _
  | rule _ h ih => exact (Node.accountable_of_instantiate _ ih h).1

/-- What a rule answers in a context: whether a matcher accepts, or the value a replacer
proposes. -/
def Instance.outcome (ctx : Context) : Instance → Except EvalError Bool ⊕ Except EvalError Constant
  | .matcher m => .inl (m.accepts ctx)
  | .replacer r => .inr (r.proposeValue ctx)

/-- A rule that is relabelled answers as it did. -/
@[simp] theorem Instance.outcome_relabel (name : String) (arguments : List Argument) (i : Instance)
    (ctx : Context) : (i.relabel name arguments).outcome ctx = i.outcome ctx := by
  cases i <;> rfl

/-- An accountable rule answers alike in contexts that agree on its addresses and variables. -/
theorem Instance.outcome_congr {i : Instance} (h : i.toParam.Accountable) {ctx ctx' : Context}
    (hreads : ∀ r ∈ i.references, ctx.read r = ctx'.read r)
    (hvars : ∀ v ∈ Param.capturedBy i.arguments, ctx.vars.get v = ctx'.vars.get v) :
    i.outcome ctx = i.outcome ctx' := by
  cases i with
  | matcher m =>
    exact congrArg Sum.inl (m.body.run_congr fun o ho => (h o ho).resolve_eq hreads hvars)
  | replacer r =>
    exact congrArg Sum.inr (r.proposeValue_congr fun o ho => (h o ho).resolve_eq hreads hvars)

/-- The addresses a built rule lists are complete: with variables held fixed, two contexts that read
each of them alike, to the same text or the same failure, give the rule the same outcome. -/
theorem Instance.outcome_eq_of_reads_eq (i : Instance) (hbuilt : i.toParam.Built)
    (ctx ctx' : Context) (hvars : ctx.vars = ctx'.vars)
    (hreads : ∀ r ∈ i.references, ctx.read r = ctx'.read r) : i.outcome ctx = i.outcome ctx' :=
  outcome_congr hbuilt.accountable hreads fun v _ => by rw [hvars]

/-- A factory of matchers that compare the cell itself with a given text. The cell is read inside
the tree, where no argument of the matcher shows it. -/
def sameText : Factory :=
  .define "Same" "" .matcher [.single "text" .string] (.tree (.call "root"
    (Registry.builtinFactory .exact) [.cell "input" .any, .variable "against" "text"]))

/-- The matcher that `sameText` makes for a text. -/
def sameTextMatcher (text : String) : Matcher where
  name := "Same"
  arguments := [⟨"text", .constant (.string text)⟩]
  references := [.any]
  body := .equal (.cell .any) (.constant (.string text))

/-- A matcher made by `sameText` answers alike for two cells of one text, however the other cells
differ. -/
theorem Instance.outcome_sameText_eq :
    sameText.instantiate ⟨Builtin.list, .empty⟩ true [⟨"text", .constant (.string "a")⟩] =
        .ok (.matcher (sameTextMatcher "a")) ∧
      (Instance.matcher (sameTextMatcher "a")).outcome
          ⟨fun a => .ok (if a.row = 0 then "a" else "b"), .empty, ⟨"S", 0, 0⟩⟩ =
        (Instance.matcher (sameTextMatcher "a")).outcome
          ⟨fun _ => .ok "a", .empty, ⟨"S", 0, 1⟩⟩ := by
  have hmade : sameText.instantiate ⟨Builtin.list, .empty⟩ true
      [⟨"text", .constant (.string "a")⟩] = .ok (.matcher (sameTextMatcher "a")) := rfl
  refine ⟨hmade, outcome_eq_of_reads_eq _ (.rule ?_ hmade) _ _ rfl fun r hr => ?_⟩
  · simpa using Param.Built.constant _
  · obtain rfl : r = .any := List.mem_singleton.mp hr
    rfl

end GridAudit
