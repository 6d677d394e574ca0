import GridAudit.Proofs.PatternBodies
import GridAudit.Proofs.PatternSearch
import GridAudit.Proofs.TextsInCells

/-!
# Patterns that match the whole input

The matcher of patterns sets its pattern between the start and the end of the text. Where the
pattern is one by itself, as for the replacer of matches, and fits there, the matcher accepts just
the texts that the pattern spans from end to end. But a pattern that ends within a comment hides the
closing parenthesis and is refused, and so is one that leaves no room within the limits. And a text
that is no pattern by itself may become one, which then need not match the whole input.
-/

namespace GridAudit

namespace Pattern

/-! ## Spans -/

variable {text : List Char} {i j : Nat}

/-- Steps that stay within a text lead no farther than to its end. -/
theorem Times.le_length {step : Nat → Nat → Prop} {n : Nat}
    (hstep : ∀ i j, step i j → i ≤ text.length → j ≤ text.length) (h : Times step n i j)
    (hi : i ≤ text.length) : j ≤ text.length := by
  induction n generalizing i with
  | zero => exact h ▸ hi
  | succ n ih =>
    obtain ⟨k, hk, h⟩ := h
    exact ih h (hstep i k hk hi)

/-- What a shape spans ends within the text. -/
theorem Shape.Spans.le_length {shape : Shape} (h : shape.Spans text i j) (hi : i ≤ text.length) :
    j ≤ text.length := by
  induction shape generalizing i j with
  | empty => exact h ▸ hi
  | set members =>
    obtain ⟨rfl, c, hc, -⟩ := h
    exact (List.getElem?_eq_some_iff.mp hc).1
  | assertion condition => exact h.1 ▸ hi
  | group index body ih => exact ih h hi
  | sequence first second ihFirst ihSecond =>
    obtain ⟨k, hfirst, hsecond⟩ := h
    exact ihSecond hsecond (ihFirst hfirst hi)
  | choice first second ihFirst ihSecond =>
    rcases h with h | h
    · exact ihFirst h hi
    · exact ihSecond h hi
  | repetition least greatest greedy body ih =>
    obtain ⟨n, -, -, h⟩ := h
    exact h.le_length (fun i j h hi => ih h hi) hi

/-- The start of a text is where nothing stands before. -/
theorem isNone_charBefore_iff (hi : i ≤ text.length) : (charBefore text i).isNone ↔ i = 0 := by
  cases i with
  | zero => simp [charBefore]
  | succ i => simp [charBefore, Nat.lt_of_succ_le hi]

/-- Between the start and the end of the text a shape spans the whole of it. -/
theorem Shape.spans_between_iff (shape : Shape) (hi : i ≤ text.length) :
    shape.between.Spans text i j ↔ i = 0 ∧ j = text.length ∧ shape.Spans text 0 text.length := by
  simp only [between, Spans, Assertion.holds, isNone_charBefore_iff hi]
  constructor
  · rintro ⟨_, ⟨rfl, rfl⟩, k, hspans, rfl, hend⟩
    have hlength : k = text.length := by
      have hle := hspans.le_length hi
      simp at hend
      omega
    exact ⟨rfl, hlength, hlength ▸ hspans⟩
  · rintro ⟨rfl, rfl, hspans⟩
    exact ⟨0, ⟨rfl, rfl⟩, text.length, hspans, rfl, by simp⟩

/-- The program of a shape between the start and the end of the text finds what the shape spans of
the whole text. -/
theorem Source.matchesIn_between (shape : Shape) (names : List (String × Nat)) (text : List Char) :
    (Source.compile ⟨shape.between, names⟩).matchesIn text ↔ shape.Spans text 0 text.length := by
  rw [Program.matchesIn_iff]
  simp only [Source.accepts_compile_iff]
  constructor
  · rintro ⟨i, hi, j, hspans⟩
    exact ((shape.spans_between_iff hi).mp hspans).2.2
  · intro hspans
    exact ⟨0, Nat.zero_le _, _, (shape.spans_between_iff (Nat.zero_le _)).mpr ⟨rfl, rfl, hspans⟩⟩

end Pattern

/-! ## Rules of patterns -/

namespace Builtin

variable {b : Builtin} {vars : Variables} {arguments valid : List Argument} {slot p : String}

/-- Arguments that are valid for a built-in rule and give it a constant text for a pattern. -/
structure Patterned (b : Builtin) (vars : Variables) (arguments valid : List Argument)
    (p : String) : Prop where
  validate : (Registry.builtinFactory b).signature.validate vars arguments = .ok valid
  pattern : Bound.valuesOf "pattern" valid = [.constant (.string p)]

/-- A constant text is compiled for a pattern, as it is or between the start and the end. -/
theorem patternOf_eq_ok (h : Bound.valuesOf "pattern" valid = [.constant (.string p)])
    {whole : Bool} {source : PatternSource} : patternOf whole valid = .ok source ↔
      ∃ read, Pattern.Source.parse? (PatternSource.written whole p) = some read ∧
        source = .compiled read.compile := by
  have hofOperand : PatternSource.ofOperand? whole (Param.constant (.string p)).operand =
      (Pattern.Source.parse? (PatternSource.written whole p)).map fun read =>
        PatternSource.compiled read.compile := by
    simp only [Param.operand, PatternSource.ofOperand?, Pattern.Program.ofText?, Option.map_map]
    rfl
  constructor
  · intro hpattern
    obtain ⟨operand, hoperand, hsource⟩ := exists_of_patternOf hpattern
    obtain rfl := Except.ok.inj ((operandOf_of_valuesOf h).symm.trans hoperand)
    obtain ⟨read, hread, hcompiled⟩ := Option.map_eq_some_iff.mp (hofOperand.symm.trans hsource)
    exact ⟨read, hread, hcompiled.symm⟩
  · rintro ⟨read, hread, rfl⟩
    rw [hread] at hofOperand
    rw [patternOf, operandOf_of_valuesOf h]
    simp only [bind, Except.bind, hofOperand, Option.map_some]

namespace Patterned

variable {body : RuleBody}

/-- The matcher of patterns is given one input. -/
theorem exists_input (h : regex.Patterned vars arguments valid p) :
    ∃ q, Bound.valuesOf "input" valid = [q] :=
  (Signature.typed_of_validate h.validate).exists_valuesOf_eq rfl rfl rfl

/-- The replacer of matches is given one input and one replacement. -/
theorem exists_input_and_replacement (h : regexReplace.Patterned vars arguments valid p) :
    (∃ q, Bound.valuesOf "input" valid = [q]) ∧ ∃ r, Bound.valuesOf "replacement" valid = [r] := by
  have htyped := Signature.typed_of_validate h.validate
  exact ⟨htyped.exists_valuesOf_eq rfl rfl rfl, htyped.exists_valuesOf_eq rfl rfl rfl⟩

/-- The body of the matcher of patterns is built where the pattern is one between the start and the
end. -/
theorem build_regex_eq_ok (h : regex.Patterned vars arguments valid p) :
    regex.build valid = .ok body ↔
      ∃ read, Pattern.Source.parse? ("^(?:" ++ p ++ ")$") = some read ∧
        ∃ q, Bound.valuesOf "input" valid = [q] ∧
          body = .test (.pattern q.operand (.compiled read.compile)) := by
  obtain ⟨q, hq⟩ := h.exists_input
  simp only [build, bind_eq_ok, patternOf_eq_ok h.pattern, operandOf_of_valuesOf hq, hq]
  constructor
  · rintro ⟨_, ⟨read, hread, rfl⟩, _, hinput, hbody⟩
    obtain rfl := Except.ok.inj hinput
    exact ⟨read, hread, q, rfl, (Except.ok.inj hbody).symm⟩
  · rintro ⟨read, hread, _, hinput, rfl⟩
    obtain rfl := List.singleton_inj.mp hinput
    exact ⟨_, ⟨read, hread, rfl⟩, _, rfl, rfl⟩

/-- The body of the replacer of matches is built where the pattern is one. -/
theorem build_regexReplace_eq_ok (h : regexReplace.Patterned vars arguments valid p) :
    regexReplace.build valid = .ok body ↔
      ∃ read, Pattern.Source.parse? p = some read ∧
        ∃ q r, Bound.valuesOf "input" valid = [q] ∧ Bound.valuesOf "replacement" valid = [r] ∧
          body = .action (.replaceAll q.operand (.compiled read.compile) r.operand) := by
  obtain ⟨⟨q, hq⟩, r, hr⟩ := h.exists_input_and_replacement
  simp only [build, bind_eq_ok, patternOf_eq_ok h.pattern, operandOf_of_valuesOf hq,
    operandOf_of_valuesOf hr, hq, hr]
  constructor
  · rintro ⟨_, hinput, _, ⟨read, hread, rfl⟩, _, hreplacement, hbody⟩
    obtain rfl := Except.ok.inj hinput
    obtain rfl := Except.ok.inj hreplacement
    exact ⟨read, hread, q, r, rfl, rfl, (Except.ok.inj hbody).symm⟩
  · rintro ⟨read, hread, _, _, hinput, hreplacement, rfl⟩
    obtain rfl := List.singleton_inj.mp hinput
    obtain rfl := List.singleton_inj.mp hreplacement
    exact ⟨_, rfl, _, ⟨read, hread, rfl⟩, _, rfl, rfl⟩

end Patterned

end Builtin

namespace Workbench

open Pattern

variable {w : Workbench} {vars : Variables} {optimize : Bool} {p : String}
  {arguments valid arguments' valid' : List Argument}

/-- The matcher of patterns is built where the pattern is one between the start and the end. -/
theorem Reachable.buildRegistered_regex_eq_ok (hw : w.Reachable) (optimize : Bool)
    (h : Builtin.regex.Patterned vars arguments valid p) {i : Instance} :
    (w.buildRegistered vars "Regex" optimize arguments).answer = .ok i ↔
      ∃ read, Source.parse? ("^(?:" ++ p ++ ")$") = some read ∧
        ∃ q, Bound.valuesOf "input" valid = [q] ∧
          (RuleBody.test (.pattern q.operand (.compiled read.compile))).toInstance "Regex" valid
            = i := by
  refine (hw.buildRegistered_builtin_eq_ok (b := .regex)).trans ⟨?_, ?_⟩
  · rintro ⟨_, body, hvalid, hbody, -, hi⟩
    obtain rfl := Except.ok.inj (h.validate.symm.trans hvalid)
    obtain ⟨read, hread, q, hq, rfl⟩ := h.build_regex_eq_ok.mp hbody
    exact ⟨read, hread, q, hq, hi⟩
  · rintro ⟨read, hread, q, hq, hi⟩
    exact ⟨valid, _, h.validate, h.build_regex_eq_ok.mpr ⟨read, hread, q, hq, rfl⟩, rfl, hi⟩

/-- The replacer of matches can be built where the pattern is one. -/
theorem Reachable.exists_buildRegistered_regexReplace_iff (hw : w.Reachable) (optimize : Bool)
    (h : Builtin.regexReplace.Patterned vars arguments valid p) :
    (∃ i, (w.buildRegistered vars "RegexReplace" optimize arguments).answer = .ok i) ↔
      ∃ read, Source.parse? p = some read := by
  refine (exists_congr fun i =>
    hw.buildRegistered_builtin_eq_ok (b := .regexReplace)).trans ⟨?_, ?_⟩
  · rintro ⟨_, _, body, hvalid, hbody, -, -⟩
    obtain rfl := Except.ok.inj (h.validate.symm.trans hvalid)
    obtain ⟨read, hread, -⟩ := h.build_regexReplace_eq_ok.mp hbody
    exact ⟨read, hread⟩
  · rintro ⟨read, hread⟩
    obtain ⟨⟨q, hq⟩, r, hr⟩ := h.exists_input_and_replacement
    have hbody := h.build_regexReplace_eq_ok.mpr ⟨read, hread, q, r, hq, hr, rfl⟩
    exact ⟨_, _, _, h.validate, hbody, rfl, rfl⟩

/-- Of a constant pattern the replacer of matches can be built just where it is a pattern, and the
matcher where it is one between the start and the end of the text. For a pattern this means that it
fits there, and then the matcher accepts just the texts that the pattern spans from end to end. -/
theorem Reachable.matchesWhole (hw : w.Reachable) (optimize : Bool)
    (hregex : Builtin.regex.Patterned vars arguments valid p)
    (hreplace : Builtin.regexReplace.Patterned vars arguments' valid' p) :
    let regex := (w.buildRegistered vars "Regex" optimize arguments).answer
    let regexReplace := (w.buildRegistered vars "RegexReplace" optimize arguments').answer
    ((∃ i, regexReplace = .ok i) ↔ ∃ source, Source.parse? p = some source) ∧
    ((∃ i, regex = .ok i) ↔ ∃ whole, Source.parse? ("^(?:" ++ p ++ ")$") = some whole) ∧
    ∀ source, Source.parse? p = some source →
      ((∃ i, regex = .ok i) ↔ Fits p source) ∧
      ∀ i, regex = .ok i → ∀ q ∈ Bound.valuesOf "input" valid, ∀ ctx text,
        q.operand.readString ctx = .ok text → ∃ accepted, i.outcome ctx = .inl (.ok accepted) ∧
          (accepted ↔ source.shape.Spans text.toList 0 text.length) := by
  intro regex regexReplace
  have hbuilt : (∃ i, regex = .ok i) ↔
      ∃ whole, Source.parse? ("^(?:" ++ p ++ ")$") = some whole := by
    simp only [regex, hw.buildRegistered_regex_eq_ok optimize hregex]
    constructor
    · rintro ⟨_, whole, hwhole, -⟩
      exact ⟨whole, hwhole⟩
    · rintro ⟨whole, hwhole⟩
      obtain ⟨q, hq⟩ := hregex.exists_input
      exact ⟨_, whole, hwhole, q, hq, rfl⟩
  refine ⟨hw.exists_buildRegistered_regexReplace_iff optimize hreplace, hbuilt,
    fun source hsource => ⟨?_, fun i hi q hq ctx text htext => ?_⟩⟩
  · simp only [hbuilt, Source.parse?_between hsource, exists_and_left, exists_eq, and_true]
  · obtain ⟨whole, hwhole, q', hq', rfl⟩ := (hw.buildRegistered_regex_eq_ok optimize hregex).mp hi
    obtain ⟨-, rfl⟩ := (Source.parse?_between hsource).mp hwhole
    obtain rfl : q = q' := by simpa [hq'] using hq
    refine ⟨_, ?_, Source.matchesIn_between source.shape source.names text.toList⟩
    rw [RuleBody.outcome_toInstance, RuleBody.outcome, Test.run, htext]
    rfl

/-- The arguments of a matcher of patterns for the cell at hand. -/
def patternArguments (p : String) : List Argument :=
  [⟨"input", .cell .any⟩, ⟨"pattern", .constant (.string p)⟩]

/-- The arguments of a replacer of matches for the cell at hand. -/
def removalArguments (p : String) : List Argument :=
  patternArguments p ++ [⟨"replacement", .constant (.string "")⟩]

/-- The arguments for a matcher give it the pattern. -/
theorem patterned_patternArguments (p : String) :
    Builtin.regex.Patterned .empty (patternArguments p) (patternArguments p) p :=
  ⟨rfl, rfl⟩

/-- The arguments for a replacer give it the pattern. -/
theorem patterned_removalArguments (p : String) :
    Builtin.regexReplace.Patterned .empty (removalArguments p) (removalArguments p) p :=
  ⟨rfl, rfl⟩

/-- The pattern `a|b+` fits between the start and the end, and its matcher accepts `bb`, which the
pattern spans, and not `ab`, of which it spans either half. -/
theorem matchesWhole_alternatives :
    ∃ source i, Source.parse? "a|b+" = some source ∧ Fits "a|b+" source ∧
      ((new .withBuiltins).buildRegistered .empty "Regex" true
        (patternArguments "a|b+")).answer = .ok i ∧
      ∀ ctx, (ctx.read .any = .ok "bb" → i.outcome ctx = .inl (.ok true)) ∧
        (ctx.read .any = .ok "ab" → i.outcome ctx = .inl (.ok false)) := by
  have hreachable : (new .withBuiltins).Reachable := ⟨[], rfl⟩
  obtain ⟨-, hbuilt, hpattern⟩ := hreachable.matchesWhole true
    (patterned_patternArguments "a|b+") (patterned_removalArguments "a|b+")
  let source := (Source.parse? "a|b+").get (by decide +kernel)
  have hsource : Source.parse? "a|b+" = some source := Option.eq_some_of_isSome _
  have hspans (text : String) :
      (Source.compile ⟨source.shape.between, source.names⟩).matchesIn text.toList ↔
        source.shape.Spans text.toList 0 text.length :=
    Source.matchesIn_between source.shape source.names text.toList
  obtain ⟨i, hi⟩ := hbuilt.mpr (Option.isSome_iff_exists.mp (by decide +kernel))
  obtain ⟨hfits, haccepts⟩ := hpattern source hsource
  have hread {ctx : Context} {text : String} (h : ctx.read .any = .ok text) :
      (Param.cell .any).operand.readString ctx = .ok text := by
    simp only [Param.operand, Operand.readString, Operand.resolve, h]
    rfl
  refine ⟨source, i, hsource, hfits.mp ⟨i, hi⟩, hi, fun ctx => ⟨fun htext => ?_, fun htext => ?_⟩⟩
  · obtain ⟨accepted, houtcome, haccepted⟩ :=
      haccepts i hi (.cell .any) (List.mem_singleton.mpr rfl) ctx "bb" (hread htext)
    rw [houtcome, haccepted.mpr ((hspans "bb").mp (by decide +kernel))]
  · obtain ⟨accepted, houtcome, haccepted⟩ :=
      haccepts i hi (.cell .any) (List.mem_singleton.mpr rfl) ctx "ab" (hread htext)
    have hnot : ¬ source.shape.Spans "ab".toList 0 "ab".length :=
      fun h => absurd ((hspans "ab").mpr h) (by decide +kernel)
    rw [houtcome, Bool.eq_false_iff.mpr fun h => hnot (haccepted.mp h)]

/-- In general neither does the matcher take just the patterns that the replacer takes, nor does it
accept only texts that its pattern spans: `a)|(?:b` is no pattern, but becomes one that matches at
the start of `ax`. -/
theorem not_matchesWhole :
    (¬ ∀ p, (∃ i, ((new .withBuiltins).buildRegistered .empty "Regex" true
        (patternArguments p)).answer = .ok i) ↔
      ∃ i, ((new .withBuiltins).buildRegistered .empty "RegexReplace" true
        (removalArguments p)).answer = .ok i) ∧
    ¬ ∀ p i ctx text, ((new .withBuiltins).buildRegistered .empty "Regex" true
        (patternArguments p)).answer = .ok i → ctx.read .any = .ok text →
      i.outcome ctx = .inl (.ok true) →
      ∃ source, Source.parse? p = some source ∧
        source.shape.Spans text.toList 0 text.length := by
  have hreachable : (new .withBuiltins).Reachable := ⟨[], rfl⟩
  have hnone : ¬ ∃ source, Source.parse? "a)|(?:b" = some source :=
    fun h => absurd (Option.isSome_iff_exists.mpr h) (by decide +kernel)
  let whole := (Source.parse? "^(?:a)|(?:b)$").get (by decide +kernel)
  have hwhole : Source.parse? ("^(?:" ++ "a)|(?:b" ++ ")$") = some whole :=
    Option.eq_some_of_isSome _
  have hi := (hreachable.buildRegistered_regex_eq_ok true
    (patterned_patternArguments "a)|(?:b")).mpr ⟨whole, hwhole, .cell .any, rfl, rfl⟩
  constructor
  · intro h
    have hbuilt := (h "a)|(?:b").mp ⟨_, hi⟩
    exact hnone ((hreachable.exists_buildRegistered_regexReplace_iff true
      (patterned_removalArguments "a)|(?:b")).mp hbuilt)
  · intro h
    have hmatches : whole.compile.matchesIn "ax".toList = true := by decide +kernel
    let ctx : Context := ⟨fun _ => .ok "ax", .empty, ⟨"S", 0, 0⟩⟩
    obtain ⟨source, hsource, -⟩ := h "a)|(?:b" _ ctx "ax" hi rfl
      (congrArg (fun accepted => Sum.inl (Except.ok accepted)) hmatches)
    exact hnone ⟨source, hsource⟩

end Workbench

end GridAudit
