import GridAudit.Proofs.Flattening

/-!
# Laws of combinators

Matchers that are made of matchers obey the laws of Boolean algebra although evaluation has a third
outcome: the parts run from first to last, and the first failure that is met is the failure of the
whole. So negation goes in and comes out of `All` and `Any`, blocks of a list may be put together
first, and a choice among options is the disjunction of the comparisons with each: both sides accept
alike, and fail with the same error.
-/

namespace GridAudit

/-! ## Runs of tests -/

namespace Test

variable {ctx : Context}

/-- A negated test answers the opposite, and fails as the test does. -/
theorem run_not (t : Test) : (Test.not t).run ctx = (t.run ctx).map (!·) := by
  rw [run]
  rfl

/-- A run of two lists in turn goes on where the first does not refuse. -/
theorem runAll_append (tests more : List Test) :
    runAll ctx (tests ++ more) = (do
      let accepted ← runAll ctx tests
      if accepted then runAll ctx more else return false) := by
  induction tests with
  | nil => rfl
  | cons t rest ih =>
    rw [List.cons_append, runAll, runAll, ih]
    cases t.run ctx with
    | error e => rfl
    | ok accepted => cases accepted <;> rfl

/-- A run of two lists in turn goes on where the first does not accept. -/
theorem runAny_append (tests more : List Test) :
    runAny ctx (tests ++ more) = (do
      let accepted ← runAny ctx tests
      if accepted then return true else runAny ctx more) := by
  induction tests with
  | nil => rfl
  | cons t rest ih =>
    rw [List.cons_append, runAny, runAny, ih]
    cases t.run ctx with
    | error e => rfl
    | ok accepted => cases accepted <;> rfl

/-- Conjunctions of blocks come to the conjunction of what is in them. -/
theorem runAll_blocks (blocks : List (List Test)) :
    runAll ctx (blocks.map .all) = runAll ctx blocks.flatten := by
  induction blocks with
  | nil => rfl
  | cons block rest ih =>
    rw [List.map_cons, runAll, run, ih, List.flatten_cons, runAll_append]

/-- Disjunctions of blocks come to the disjunction of what is in them. -/
theorem runAny_blocks (blocks : List (List Test)) :
    runAny ctx (blocks.map .any) = runAny ctx blocks.flatten := by
  induction blocks with
  | nil => rfl
  | cons block rest ih =>
    rw [List.map_cons, runAny, run, ih, List.flatten_cons, runAny_append]

/-- All negations accept where no test does. -/
theorem runAll_map_not (tests : List Test) :
    runAll ctx (tests.map .not) = (runAny ctx tests).map (!·) := by
  induction tests with
  | nil => rfl
  | cons t rest ih =>
    rw [List.map_cons, runAll, runAny, run_not, ih]
    cases t.run ctx with
    | error e => rfl
    | ok accepted => cases accepted <;> rfl

/-- Some negation accepts where not all tests do. -/
theorem runAny_map_not (tests : List Test) :
    runAny ctx (tests.map .not) = (runAll ctx tests).map (!·) := by
  induction tests with
  | nil => rfl
  | cons t rest ih =>
    rw [List.map_cons, runAny, runAll, run_not, ih]
    cases t.run ctx with
    | error e => rfl
    | ok accepted => cases accepted <;> rfl

/-- Comparisons of an input that is read come to reading the options up to the first that is that
text. -/
theorem runAny_equal {input : Operand} {text : String} (hinput : input.readString ctx = .ok text)
    (options : List Operand) :
    runAny ctx (options.map (.equal input)) = Operand.anyReads ctx text options := by
  induction options with
  | nil => rfl
  | cons o rest ih =>
    rw [List.map_cons, runAny, ih, run, hinput, Operand.anyReads]
    cases o.readString ctx with
    | error e => rfl
    | ok option => simp [bind, Except.bind, pure, Except.pure, eq_comm]

/-- A choice among options comes to the comparisons with each. Without options there would be
no comparison to fail where the input cannot be read. -/
theorem run_oneOf (input : Operand) {options : List Operand} (hne : options ≠ []) :
    (Test.oneOf input options).run ctx = runAny ctx (options.map (.equal input)) := by
  cases hinput : input.readString ctx with
  | ok text =>
    rw [runAny_equal hinput, run, hinput]
    rfl
  | error e =>
    obtain ⟨o, rest, rfl⟩ := List.exists_cons_of_ne_nil hne
    rw [List.map_cons, runAny, run, run, hinput]
    rfl

end Test

/-! ## Combinators -/

namespace Matcher

/-- The matcher that `Any` makes of matchers. -/
def anyOf (matchers : List Matcher) : Matcher where
  name := "Any"
  arguments := allArguments matchers
  references := collectReferences [] (allArguments matchers)
  body := .any (matchers.map Rule.body)

/-- The matcher that `Not` makes of a matcher. -/
def negated (m : Matcher) : Matcher where
  name := "Not"
  arguments := [⟨"matcher", .matcher m⟩]
  references := collectReferences [] [⟨"matcher", .matcher m⟩]
  body := .not m.body

/-- The matcher that `Exact` makes of two plain values. -/
def exactly (input against : Param) : Matcher where
  name := "Exact"
  arguments := [⟨"input", input⟩, ⟨"against", against⟩]
  references := collectReferences [] [⟨"input", input⟩, ⟨"against", against⟩]
  body := .equal input.operand against.operand

variable {ctx : Context}

theorem accepts_negated (m : Matcher) : m.negated.accepts ctx = (m.accepts ctx).map (!·) :=
  Test.run_not m.body

theorem accepts_allOf (matchers : List Matcher) :
    (allOf matchers).accepts ctx = Test.runAll ctx (matchers.map Rule.body) := by
  rw [accepts, allOf, Test.run]

theorem accepts_anyOf (matchers : List Matcher) :
    (anyOf matchers).accepts ctx = Test.runAny ctx (matchers.map Rule.body) := by
  rw [accepts, anyOf, Test.run]

/-- The bodies of negated matchers are the negated bodies. -/
theorem map_body_negated (matchers : List Matcher) :
    (matchers.map negated).map Rule.body = (matchers.map Rule.body).map .not := by
  rw [List.map_map, List.map_map]
  rfl

/-- A negated disjunction accepts and fails as the conjunction of the negations. -/
theorem accepts_negated_anyOf (matchers : List Matcher) :
    (anyOf matchers).negated.accepts ctx = (allOf (matchers.map negated)).accepts ctx := by
  rw [accepts_negated, accepts_anyOf, accepts_allOf, map_body_negated, Test.runAll_map_not]

/-- A negated conjunction accepts and fails as the disjunction of the negations. -/
theorem accepts_negated_allOf (matchers : List Matcher) :
    (allOf matchers).negated.accepts ctx = (anyOf (matchers.map negated)).accepts ctx := by
  rw [accepts_negated, accepts_allOf, accepts_anyOf, map_body_negated, Test.runAny_map_not]

/-- A matcher that is negated twice accepts and fails as before. -/
theorem accepts_negated_negated (m : Matcher) : m.negated.negated.accepts ctx = m.accepts ctx := by
  rw [accepts_negated, accepts_negated]
  cases m.accepts ctx with
  | error e => rfl
  | ok accepted => exact congrArg Except.ok accepted.not_not

/-- A conjunction of conjunctions accepts and fails as the conjunction of what is in them. -/
theorem accepts_allOf_blocks (blocks : List (List Matcher)) :
    (allOf (blocks.map allOf)).accepts ctx = (allOf blocks.flatten).accepts ctx := by
  have hbodies : (blocks.map allOf).map Rule.body =
      (blocks.map (List.map Rule.body)).map .all := by
    rw [List.map_map, List.map_map]
    rfl
  rw [accepts_allOf, accepts_allOf, hbodies, Test.runAll_blocks, List.map_flatten]

/-- A disjunction of disjunctions accepts and fails as the disjunction of what is in them. -/
theorem accepts_anyOf_blocks (blocks : List (List Matcher)) :
    (anyOf (blocks.map anyOf)).accepts ctx = (anyOf blocks.flatten).accepts ctx := by
  have hbodies : (blocks.map anyOf).map Rule.body =
      (blocks.map (List.map Rule.body)).map .any := by
    rw [List.map_map, List.map_map]
    rfl
  rw [accepts_anyOf, accepts_anyOf, hbodies, Test.runAny_blocks, List.map_flatten]

end Matcher

/-! ## What a workbench builds -/

namespace Workbench

variable {w : Workbench} {vars : Variables} {optimize : Bool} {arguments : List Argument}
  {input option : Param} {options : List Param} {m : Matcher}

/-- On a workbench the factory of a built-in rule makes a rule of arguments. -/
def Builds (w : Workbench) (vars : Variables) (optimize : Bool) (b : Builtin)
    (arguments : List Argument) (i : Instance) : Prop :=
  (w.buildRegistered vars b.name optimize arguments).answer = .ok i

/-- The arguments of a comparison. -/
def comparison (input against : Param) : List Argument :=
  [⟨"input", input⟩, ⟨"against", against⟩]

/-- The arguments of a choice among options. -/
def choice (input : Param) (options : List Param) : List Argument :=
  ⟨"input", input⟩ :: options.map fun o => ⟨"options", o⟩

/-- An input and one option or more fit what a choice takes. -/
theorem wired_choice (input : Param) (hne : options ≠ []) :
    (Registry.builtinFactory .oneOf).signature.Wired
      ((choice input options).map Bound.slot) := by
  have hslots : (choice input options).map Bound.slot =
      "input" :: List.replicate options.length "options" := by
    simp [choice, Function.comp_def, List.map_const']
  rw [hslots]
  constructor
  case declared =>
    refine List.forall_mem_cons.mpr ⟨rfl, fun slot hslot => ?_⟩
    exact List.eq_of_mem_replicate hslot ▸ rfl
  case single =>
    intro slot hcount
    obtain rfl : "options" = slot := by
      by_contra hother
      have hrest : (List.replicate options.length "options").count slot = 0 :=
        List.count_eq_zero.mpr fun hslot => hother (List.eq_of_mem_replicate hslot).symm
      rw [List.count_cons, hrest] at hcount
      split at hcount <;> omega
    rfl
  case complete =>
    intro f hf _
    have hpos : options.length ≠ 0 := mt List.length_eq_zero_iff.mp hne
    rcases List.mem_pair.mp hf with rfl | rfl
    · exact List.mem_cons_self
    · exact List.mem_cons_of_mem _ (List.mem_replicate.mpr ⟨hpos, rfl⟩)

namespace Reachable

/-- On a reachable workbench `Not` is built of every matcher. -/
theorem builds_negated (hw : w.Reachable) (vars : Variables) (optimize : Bool) (m : Matcher) :
    w.Builds vars optimize .not [⟨"matcher", .matcher m⟩] (.matcher m.negated) :=
  hw.buildRegistered_builtin_eq_ok.mpr ⟨_, .test (.not m.body), rfl, rfl, rfl, rfl⟩

/-- On a reachable workbench `Any` is built of one matcher or more. -/
theorem builds_anyOf (hw : w.Reachable) (vars : Variables) (optimize : Bool)
    {matchers : List Matcher} (hne : matchers ≠ []) :
    w.Builds vars optimize .any (allArguments matchers) (.matcher (.anyOf matchers)) := by
  have htyped : (Registry.builtinFactory .any).signature.Typed vars (allArguments matchers) :=
    typed_allArguments rfl vars hne
  have hbody : Builtin.any.build (allArguments matchers) =
      .ok (.test (.any (matchers.map Rule.body))) := by
    rw [Builtin.build, testsOf_allArguments]
    rfl
  exact hw.buildRegistered_builtin_eq_ok.mpr ⟨_, _, htyped.validate, hbody, rfl, rfl⟩

/-- A comparison is built of what converts to text, and compares the converted values. -/
theorem builds_exact_iff (hw : w.Reachable) :
    w.Builds vars optimize .exact (comparison input option) (.matcher m) ↔
      ∃ p q, input.convert vars .string = some p ∧ option.convert vars .string = some q ∧
        .exactly p q = m := by
  have hvalidate {valid : List Argument} :
      (Registry.builtinFactory .exact).signature.validate vars (comparison input option) =
        .ok valid ↔ ∃ p q, input.convert vars .string = some p ∧
          option.convert vars .string = some q ∧ comparison p q = valid := by
    -- Each slot is there once, whatever the values are.
    change Signature.coerceAll _ vars (comparison input option) = .ok valid ↔ _
    simp only [comparison, Signature.coerceAll_eq_ok_iff, List.forall₂_cons_left_iff,
      List.forall₂_nil_left_iff, Signature.coerce_eq_ok]
    constructor
    · rintro ⟨⟨_, p⟩, _, ⟨f, hf, hp, rfl⟩, ⟨⟨_, q⟩, _, ⟨g, hg, hq, rfl⟩, rfl, rfl⟩, rfl⟩
      obtain rfl := Option.some.inj hf
      obtain rfl := Option.some.inj hg
      exact ⟨p, q, hp, hq, rfl⟩
    · rintro ⟨p, q, hp, hq, rfl⟩
      exact ⟨⟨"input", p⟩, _, ⟨_, rfl, hp, rfl⟩, ⟨⟨"against", q⟩, _, ⟨_, rfl, hq, rfl⟩, rfl, rfl⟩,
        rfl⟩
  rw [Builds, hw.buildRegistered_builtin_eq_ok]
  constructor
  · rintro ⟨valid, body, hvalid, hbody, -, hi⟩
    obtain ⟨p, q, hp, hq, rfl⟩ := hvalidate.mp hvalid
    obtain rfl := Except.ok.inj hbody
    exact ⟨p, q, hp, hq, Instance.matcher.inj hi⟩
  · rintro ⟨p, q, hp, hq, rfl⟩
    exact ⟨_, _, hvalidate.mpr ⟨p, q, hp, hq, rfl⟩, rfl, rfl, rfl⟩

/-- A choice that is built of arguments is given one input and some options, of each of which the
comparison with the input is built. It accepts and fails as these do one after another. -/
theorem exists_exacts_of_builds_oneOf (hw : w.Reachable)
    (h : w.Builds vars optimize .oneOf arguments (.matcher m)) :
    ∃ input exacts, Bound.valuesOf "input" arguments = [input] ∧ exacts ≠ [] ∧
      List.Forall₂
        (fun o exact => w.Builds vars optimize .exact (comparison input o) (.matcher exact))
        (Bound.valuesOf "options" arguments) exacts ∧
      ∀ ctx, m.accepts ctx = (Matcher.anyOf exacts).accepts ctx := by
  obtain ⟨valid, body, hvalid, hbody, -, hi⟩ := hw.buildRegistered_builtin_eq_ok.mp h
  have htyped := Signature.typed_of_validate hvalid
  have hinputs : List.Forall₂ (fun p q => p.convert vars .string = some q)
      (Bound.valuesOf "input" arguments) (Bound.valuesOf "input" valid) :=
    Signature.forall₂_valuesOf hvalid (f := .single "input" .string) rfl
  have hoptions : List.Forall₂ (fun p q => p.convert vars .string = some q)
      (Bound.valuesOf "options" arguments) (Bound.valuesOf "options" valid) :=
    Signature.forall₂_valuesOf hvalid (f := (Formal.single "options" .string).array) rfl
  have hne : Bound.valuesOf "options" valid ≠ [] :=
    htyped.valuesOf_ne_nil (f := (Formal.single "options" .string).array) rfl rfl
  obtain ⟨p, hp⟩ : ∃ p, Bound.valuesOf "input" valid = [p] :=
    htyped.exists_valuesOf_eq (f := .single "input" .string) rfl rfl rfl
  rw [hp] at hinputs
  obtain ⟨input, _, hinput, hnil, harguments⟩ := List.forall₂_cons_right_iff.mp hinputs
  obtain rfl := List.forall₂_nil_right_iff.mp hnil
  refine ⟨input, (Bound.valuesOf "options" valid).map (.exactly p), harguments,
    mt List.map_eq_nil_iff.mp hne, ?_, fun ctx => ?_⟩
  · rw [List.forall₂_map_right_iff]
    exact hoptions.imp fun o q hq => hw.builds_exact_iff.mpr ⟨p, q, hinput, hq, rfl⟩
  · rw [Builtin.build, Builtin.inputTest, Builtin.operandOf_of_valuesOf hp] at hbody
    obtain rfl := Except.ok.inj hbody
    obtain rfl := Instance.matcher.inj hi
    have hbodies : ((Bound.valuesOf "options" valid).map (Matcher.exactly p)).map Rule.body =
        (Builtin.operandsOf valid "options").map (Test.equal p.operand) := by
      rw [Builtin.operandsOf, List.map_map, List.map_map]
      rfl
    rw [Matcher.accepts_anyOf, hbodies]
    exact Test.run_oneOf p.operand (mt List.map_eq_nil_iff.mp hne)

/-- A choice is built of an input and options when there are some and the comparison with each is
built. -/
theorem exists_builds_oneOf (hw : w.Reachable) (hne : options ≠ [])
    (h : ∀ o ∈ options, ∃ exact,
      w.Builds vars optimize .exact (comparison input o) (.matcher exact)) :
    ∃ m, w.Builds vars optimize .oneOf (choice input options) (.matcher m) := by
  let s := (Registry.builtinFactory .oneOf).signature
  have hconvert (o : Param) (ho : o ∈ options) :
      (input.convert vars .string).isSome ∧ (o.convert vars .string).isSome := by
    obtain ⟨exact, hexact⟩ := h o ho
    obtain ⟨p, q, hp, hq, -⟩ := hw.builds_exact_iff.mp hexact
    exact ⟨hp ▸ rfl, hq ▸ rfl⟩
  have hwired : s.Wired ((choice input options).map Bound.slot) := wired_choice input hne
  have htakes : ∀ a ∈ choice input options, ∃ f, s.formal? a.slot = some f ∧
      (a.value.convert vars f.type).isSome := by
    obtain ⟨o, ho⟩ := List.exists_mem_of_ne_nil options hne
    refine List.forall_mem_cons.mpr ⟨⟨_, rfl, (hconvert o ho).1⟩, List.forall_mem_map.mpr ?_⟩
    exact fun o ho => ⟨_, rfl, (hconvert o ho).2⟩
  obtain ⟨valid, hvalid⟩ := Signature.exists_validate_eq_ok_iff.mpr ⟨hwired, htakes⟩
  have htyped := Signature.typed_of_validate hvalid
  obtain ⟨p, hp⟩ : ∃ p, Bound.valuesOf "input" valid = [p] :=
    htyped.exists_valuesOf_eq (f := .single "input" .string) rfl rfl rfl
  have hbody : Builtin.oneOf.build valid =
      .ok (.test (.oneOf p.operand (Builtin.operandsOf valid "options"))) := by
    rw [Builtin.build, Builtin.inputTest, Builtin.operandOf_of_valuesOf hp]
    rfl
  exact ⟨_, hw.buildRegistered_builtin_eq_ok.mpr ⟨valid, _, hvalid, hbody, rfl, rfl⟩⟩

end Reachable

/-- The laws that matchers made of matchers obey on a workbench: outcomes are the same whether a
matcher accepts, refuses or fails, and failures are the same failures. -/
structure CombinatorLaws (w : Workbench) (vars : Variables) (optimize : Bool) : Prop where
  /-- Of every matcher the negation is built. -/
  buildsNot : ∀ m : Matcher,
    w.Builds vars optimize .not [⟨"matcher", .matcher m⟩] (.matcher m.negated)
  /-- Of every list of matchers but the empty one the conjunction is built. -/
  buildsAll : ∀ matchers, matchers ≠ [] →
    w.Builds vars optimize .all (allArguments matchers) (.matcher (.allOf matchers))
  /-- Of every list of matchers but the empty one the disjunction is built. -/
  buildsAny : ∀ matchers, matchers ≠ [] →
    w.Builds vars optimize .any (allArguments matchers) (.matcher (.anyOf matchers))
  notAny : ∀ matchers ctx, (Matcher.anyOf matchers).negated.accepts ctx =
    (Matcher.allOf (matchers.map .negated)).accepts ctx
  notAll : ∀ matchers ctx, (Matcher.allOf matchers).negated.accepts ctx =
    (Matcher.anyOf (matchers.map .negated)).accepts ctx
  notNot : ∀ (m : Matcher) ctx, m.negated.negated.accepts ctx = m.accepts ctx
  /-- Consecutive blocks of a list may be put together first. -/
  allBlocks : ∀ (blocks : List (List Matcher)) ctx,
    (Matcher.allOf (blocks.map .allOf)).accepts ctx = (Matcher.allOf blocks.flatten).accepts ctx
  anyBlocks : ∀ (blocks : List (List Matcher)) ctx,
    (Matcher.anyOf (blocks.map .anyOf)).accepts ctx = (Matcher.anyOf blocks.flatten).accepts ctx
  /-- A choice is the disjunction of the comparisons of its input with its options in order. -/
  oneOf : ∀ arguments m, w.Builds vars optimize .oneOf arguments (.matcher m) →
    ∃ input exacts, Bound.valuesOf "input" arguments = [input] ∧ exacts ≠ [] ∧
      List.Forall₂
        (fun o exact => w.Builds vars optimize .exact (comparison input o) (.matcher exact))
        (Bound.valuesOf "options" arguments) exacts ∧
      ∀ ctx, m.accepts ctx = (Matcher.anyOf exacts).accepts ctx
  /-- A choice is built where the comparisons are. -/
  buildsOneOf : ∀ input options, options ≠ [] →
    (∀ o ∈ options, ∃ exact,
      w.Builds vars optimize .exact (comparison input o) (.matcher exact)) →
    ∃ m, w.Builds vars optimize .oneOf (choice input options) (.matcher m)

/-- On every reachable workbench the laws of combinators hold, in every context. -/
theorem Reachable.combinatorLaws (hw : w.Reachable) (vars : Variables) (optimize : Bool) :
    w.CombinatorLaws vars optimize where
  buildsNot := hw.builds_negated vars optimize
  buildsAll _ hne := hw.build_all vars optimize hne
  buildsAny _ hne := hw.builds_anyOf vars optimize hne
  notAny matchers _ := Matcher.accepts_negated_anyOf matchers
  notAll matchers _ := Matcher.accepts_negated_allOf matchers
  notNot m _ := m.accepts_negated_negated
  allBlocks blocks _ := Matcher.accepts_allOf_blocks blocks
  anyBlocks blocks _ := Matcher.accepts_anyOf_blocks blocks
  oneOf _ _ h := hw.exists_exacts_of_builds_oneOf h
  buildsOneOf _ _ hne h := hw.exists_builds_oneOf hne h

/-- The arguments of a choice among two texts and a cell between them. -/
def textOrCell : List Argument :=
  choice (.constant (.string "a")) [.constant (.string "b"), .cell .any, .constant (.string "a")]

/-- Where there are no cells the choice `textOrCell` fails at its second option, although the third
is the input, and so does the conjunction of the negated comparisons. -/
theorem combinatorLaws_textOrCell :
    ∃ m exacts, (new .withBuiltins).Builds .empty true .oneOf textOrCell (.matcher m) ∧
      m.accepts (.detached .empty) = .error (.dereference (.noSheet "")) ∧
      List.Forall₂
        (fun o exact => (new .withBuiltins).Builds .empty true .exact
          (comparison (.constant (.string "a")) o) (.matcher exact))
        [.constant (.string "b"), .cell .any, .constant (.string "a")] exacts ∧
      (Matcher.allOf (exacts.map .negated)).accepts (.detached .empty) =
        .error (.dereference (.noSheet "")) := by
  have hreachable : (new .withBuiltins).Reachable := ⟨[], rfl⟩
  have hlaws := hreachable.combinatorLaws .empty true
  obtain ⟨m, hm, hfails⟩ : ∃ m,
      (new .withBuiltins).Builds .empty true .oneOf textOrCell (.matcher m) ∧
      m.accepts (.detached .empty) = .error (.dereference (.noSheet "")) :=
    ⟨_, hreachable.buildRegistered_builtin_eq_ok.mpr ⟨textOrCell, _, rfl, rfl, rfl, rfl⟩, rfl⟩
  obtain ⟨input, exacts, hinput, -, hexacts, hsame⟩ := hlaws.oneOf textOrCell m hm
  obtain rfl : .constant (.string "a") = input := List.head_eq_of_cons_eq hinput
  refine ⟨m, exacts, hm, hfails, hexacts, ?_⟩
  rw [← hlaws.notAny, Matcher.accepts_negated, ← hsame, hfails]
  rfl

end Workbench

end GridAudit
