import GridAudit.Proofs.Coherence
import GridAudit.Proofs.Combinators
import GridAudit.Proofs.SignedNumbers

/-!
# The clamp repairs what the range check refuses

A cell may be checked for a number within bounds, and be corrected where it holds a number by
bringing that number within the same bounds. Then a text is valid, or the nearest bound is put for
it, or it is no number and nothing is put for it. What is put is a number within the bounds, and its
text is read as that number again, so a correction that is accepted needs no other. Check and
correction read the same operands in the same order, so whatever the arguments are, one fails where
the other does and with the same failure.
-/

namespace GridAudit

/-! ## Failures -/

namespace Bounds

variable {ctx : Context} {e : EvalError}

/-- A bound that is given cannot be read: the least, or the greatest after the least. -/
def Fails (b : Bounds) (ctx : Context) (e : EvalError) : Prop :=
  (∃ o ∈ b.least, o.readInt ctx = .error e) ∨
    (∀ o ∈ b.least, ∃ n, o.readInt ctx = .ok n) ∧ ∃ o ∈ b.greatest, o.readInt ctx = .error e

/-- A comparison with bounds fails when a bound cannot be read. -/
theorem hold_eq_error_iff (b : Bounds) (value : Int64) :
    b.hold (Operand.readInt ctx) (fun x y => x ≤ y) value = .error e ↔ b.Fails ctx e := by
  obtain ⟨least, greatest⟩ := b
  cases least <;> cases greatest <;>
    simp [hold, check, Fails, bind_eq_error, pure, Except.pure]

/-- To bring a number within bounds fails when a bound cannot be read. -/
theorem clamp_eq_error_iff (b : Bounds) (value : Int64) :
    b.clamp ctx value = .error e ↔ b.Fails ctx e := by
  obtain ⟨least, greatest⟩ := b
  cases least <;> cases greatest <;>
    simp [clamp, Fails, bind_eq_error, pure, Except.pure]

end Bounds

/-- A check of a range fails as the clamp to it does. -/
theorem Test.run_intRange_eq_error_iff {ctx : Context} {e : EvalError} (input : Operand)
    (bounds : Bounds) : (Test.intRange input bounds).run ctx = .error e ↔
      (Action.clamp input bounds).run ctx = .error e := by
  simp only [run, Action.run, bind_eq_error, Bounds.hold_eq_error_iff, Bounds.clamp_eq_error_iff,
    pure, Except.pure, reduceCtorEq, and_false, exists_false, or_false]

/-! ## Intervals -/

namespace Number

/-- The integer of the greater of two words. -/
theorem toInt_max (x y : Int64) : (max x y).toInt = max x.toInt y.toInt := by
  change (if x ≤ y then y else x).toInt = _
  split <;> (rename_i h; rw [Int64.le_iff_toInt_le] at h; omega)

/-- The integer of the lesser of two words. -/
theorem toInt_min (x y : Int64) : (min x y).toInt = min x.toInt y.toInt := by
  change (if x ≤ y then x else y).toInt = _
  split <;> (rename_i h; rw [Int64.le_iff_toInt_le] at h; omega)

end Number

/-- Bounds in order, of which either may be missing. -/
structure Interval where
  least : Option Int64
  greatest : Option Int64
  ordered : ∀ l ∈ least, ∀ g ∈ greatest, l ≤ g

namespace Interval

variable {I : Interval} {n k : Int64}

/-- A number lies within the bounds. -/
def Contains (I : Interval) (n : Int64) : Prop := (∀ l ∈ I.least, l ≤ n) ∧ ∀ g ∈ I.greatest, n ≤ g

/-- Whether a number lies within the bounds, each of which is compared with it. -/
theorem contains_iff :
    (I.least.all (· ≤ n) && I.greatest.all (n ≤ ·)) = true ↔ I.Contains n := by
  simp [Contains, Option.all_eq_true]

instance (I : Interval) (n : Int64) : Decidable (I.Contains n) := decidable_of_iff _ contains_iff

/-- A bound to which a number is as near as to any. -/
structure Nearest (I : Interval) (n k : Int64) : Prop where
  bound : k ∈ I.least ∨ k ∈ I.greatest
  nearest : ∀ m, m ∈ I.least ∨ m ∈ I.greatest →
    (n.toInt - k.toInt).natAbs ≤ (n.toInt - m.toInt).natAbs

/-- A number brought within the bounds. -/
def clamp (I : Interval) (n : Int64) : Int64 :=
  let raised := I.least.elim n (max n)
  I.greatest.elim raised (min raised)

/-- No bound lies below the least. -/
theorem least_le {l m : Int64} (hl : l ∈ I.least) (hm : m ∈ I.least ∨ m ∈ I.greatest) :
    l.toInt ≤ m.toInt := by
  rcases hm with hm | hm
  · exact Int.le_of_eq (congrArg Int64.toInt (Option.mem_unique hl hm))
  · exact Int64.le_iff_toInt_le.mp (I.ordered l hl m hm)

/-- No bound lies above the greatest. -/
theorem le_greatest {g m : Int64} (hg : g ∈ I.greatest) (hm : m ∈ I.least ∨ m ∈ I.greatest) :
    m.toInt ≤ g.toInt := by
  rcases hm with hm | hm
  · exact Int64.le_iff_toInt_le.mp (I.ordered m hm g hg)
  · exact Int.le_of_eq (congrArg Int64.toInt (Option.mem_unique hm hg))

/-- A number is brought up to the least bound and then down to the greatest. -/
theorem toInt_clamp (I : Interval) (n : Int64) : (I.clamp n).toInt =
    let raised := I.least.elim n.toInt fun l => max n.toInt l.toInt
    I.greatest.elim raised fun g => min raised g.toInt := by
  rw [clamp]
  cases I.least <;> cases I.greatest <;> simp [Number.toInt_max, Number.toInt_min]

/-- A number below the least bound is brought there. -/
theorem clamp_eq_least {l : Int64} (hl : l ∈ I.least) (h : n.toInt < l.toInt) : I.clamp n = l := by
  rw [← Int64.toInt_inj, toInt_clamp, Option.mem_def.mp hl]
  cases hg : I.greatest with
  | none => exact max_eq_right h.le
  | some g =>
    have hle := least_le hl (.inr hg)
    simp only [Option.elim_some]
    omega

/-- A number above the greatest bound is brought there. -/
theorem clamp_eq_greatest {g : Int64} (hg : g ∈ I.greatest) (h : g.toInt < n.toInt) :
    I.clamp n = g := by
  rw [← Int64.toInt_inj, toInt_clamp, Option.mem_def.mp hg]
  cases I.least <;> simp only [Option.elim_none, Option.elim_some] <;> omega

/-- A number that was brought within the bounds lies there. -/
theorem contains_clamp (I : Interval) (n : Int64) : I.Contains (I.clamp n) := by
  constructor
  · intro l hl
    rw [Int64.le_iff_toInt_le, toInt_clamp, Option.mem_def.mp hl]
    cases hg : I.greatest with
    | none => exact le_max_right _ _
    | some g =>
      have hle := least_le hl (.inr hg)
      simp only [Option.elim_some]
      omega
  · intro g hg
    rw [Int64.le_iff_toInt_le, toInt_clamp, Option.mem_def.mp hg]
    exact min_le_right _ _

/-- A number outside the bounds is brought to the bound that is nearest, and to no other. -/
theorem nearest_iff (h : ¬ I.Contains n) : I.Nearest n k ↔ I.clamp n = k := by
  have hnearest {b : Int64} (hb : b ∈ I.least ∨ b ∈ I.greatest)
      (hside : ∀ m, m ∈ I.least ∨ m ∈ I.greatest →
        n.toInt < b.toInt ∧ b.toInt ≤ m.toInt ∨ m.toInt ≤ b.toInt ∧ b.toInt < n.toInt) :
      I.Nearest n k ↔ b = k := by
    constructor
    · intro hk
      have hclose := hk.nearest b hb
      have hbeyond := hside k hk.bound
      exact Int64.toInt_inj.mp (by omega)
    · rintro rfl
      refine ⟨hb, fun m hm => ?_⟩
      have hbeyond := hside m hm
      omega
  rw [Contains, not_and_or] at h
  rcases h with h | h
  · obtain ⟨l, hl, hlt⟩ : ∃ l ∈ I.least, ¬ l ≤ n := by simpa using h
    rw [Int64.le_iff_toInt_le, Int.not_le] at hlt
    rw [clamp_eq_least hl hlt]
    exact hnearest (.inl hl) fun m hm => .inl ⟨hlt, least_le hl hm⟩
  · obtain ⟨g, hg, hlt⟩ : ∃ g ∈ I.greatest, ¬ n ≤ g := by simpa using h
    rw [Int64.le_iff_toInt_le, Int.not_le] at hlt
    rw [clamp_eq_greatest hg hlt]
    exact hnearest (.inr hg) fun m hm => .inr ⟨le_greatest hg hm, hlt⟩

end Interval

/-! ## Rules -/

/-- The matcher that `IsInt` makes for the cell at hand. -/
def Matcher.isInt : Matcher where
  name := "IsInt"
  arguments := [⟨"input", .cell .any⟩]
  references := collectReferences [] [⟨"input", .cell .any⟩]
  body := .isInt (.cell .any)

namespace Interval

/-- The bounds as operands. -/
def bounds (I : Interval) : Bounds :=
  ⟨I.least.map fun n => .constant (.int n), I.greatest.map fun n => .constant (.int n)⟩

/-- The arguments for a rule on the cell at hand and the bounds that are given. -/
def arguments (I : Interval) : List Argument :=
  ⟨"input", .cell .any⟩ :: (bound "min" I.least ++ bound "max" I.greatest)
where
  /-- The argument for a bound that is given. -/
  bound (slot : String) (given : Option Int64) : List Argument :=
    given.toList.map fun n => ⟨slot, .constant (.int n)⟩

/-- The matcher that `IntRange` makes for the cell at hand. -/
def range (I : Interval) : Matcher where
  name := "IntRange"
  arguments := I.arguments
  references := collectReferences [] I.arguments
  body := .intRange (.cell .any) I.bounds

/-- The replacer that `ClampInt` makes for the cell at hand. -/
def clamper (I : Interval) : Replacer where
  name := "ClampInt"
  arguments := I.arguments
  references := collectReferences [] I.arguments
  body := .clamp (.cell .any) I.bounds

/-- The correction of numbers to the nearest bound. -/
def correction (I : Interval) : Correction := ⟨.isInt, I.clamper⟩

/-- What a check of a cell for a number within the bounds comes to, when the cell holds a text. -/
def verdict (I : Interval) (text : String) : Verdict :=
  match (Constant.string text).toInt? with
  | none => .invalid
  | some n => if I.Contains n then .valid else .replacement (.int (I.clamp n))

section Check

variable {ctx : Context} {text : String} {rules : List CellRules}

/-- The cell at hand is read as the number that its text reads as. -/
theorem readInt_cell (hread : ctx.read .any = .ok text) : Operand.readInt ctx (.cell .any) =
    match (Constant.string text).toInt? with
    | some n => .ok n
    | none => .error (.unreadable text .int) := by
  rw [Operand.readInt, Operand.readAs, Operand.resolve, hread]
  simp only [Except.map, bind, Except.bind]
  cases (Constant.string text).toInt? <;> rfl

/-- A text is a whole number when it reads as one. -/
theorem accepts_isInt (hread : ctx.read .any = .ok text) :
    Matcher.isInt.accepts ctx = .ok (Constant.string text).toInt?.isSome := by
  rw [Matcher.accepts, Matcher.isInt, Test.run, Operand.readString, Operand.resolve, hread]
  rfl

/-- A number is compared with the bounds. -/
theorem hold_bounds (I : Interval) (n : Int64) :
    I.bounds.hold (Operand.readInt ctx) (fun x y => x ≤ y) n = .ok (decide (I.Contains n)) := by
  have hboth : decide (I.Contains n) = (I.least.all (· ≤ n) && I.greatest.all (n ≤ ·)) := by
    rw [Bool.eq_iff_iff, decide_eq_true_iff, contains_iff]
  rw [hboth, Bounds.hold, bounds]
  cases I.least <;> cases I.greatest <;>
    simp [Bounds.check, Operand.readInt, Operand.readAs, Operand.resolve, Constant.toInt?, bind,
      Except.bind, pure, Except.pure]

/-- A number is brought within the bounds. -/
theorem clamp_bounds (I : Interval) (n : Int64) : I.bounds.clamp ctx n = .ok (I.clamp n) := by
  rw [Bounds.clamp, bounds, clamp]
  cases I.least <;> cases I.greatest <;> rfl

/-- A check for a number within the bounds, with the correction to the nearest, depends on the text
of the cell alone. -/
theorem probe_eq (I : Interval) (hgood : rules.flatMap CellRules.goodData = [I.range])
    (hcorrections : rules.flatMap CellRules.corrections = [I.correction])
    (hread : ctx.read .any = .ok text) : probe rules ctx = I.verdict text := by
  have hisGood : IsGood rules ctx ↔ I.range.accepts ctx = .ok true := by
    rw [IsGood, hgood, List.forall_mem_singleton]
  have hinput := readInt_cell hread
  have hisInt := accepts_isInt hread
  rw [verdict]
  cases hn : (Constant.string text).toInt? with
  | none =>
    rw [hn] at hinput hisInt
    have hbad : ¬ IsGood rules ctx := by
      rw [hisGood, Matcher.accepts, range, Test.run, hinput]
      simp [bind, Except.bind]
    have hnone : NoneApplies rules ctx := by
      rw [NoneApplies, hcorrections, List.forall_mem_singleton, correction, hisInt]
      simp
    exact (TwoPhases.invalid hbad hnone).probe_eq
  | some n =>
    rw [hn] at hinput hisInt
    have haccepts : I.range.accepts ctx = .ok (decide (I.Contains n)) := by
      rw [Matcher.accepts, range, Test.run, hinput]
      exact I.hold_bounds n
    rw [haccepts, Except.ok.injEq, decide_eq_true_iff] at hisGood
    by_cases hwithin : I.Contains n
    · simp only [hwithin, ↓reduceIte]
      exact (TwoPhases.valid (hisGood.mpr hwithin)).probe_eq
    · have hfirst : AppliesFirst rules ctx 0 I.correction := by
        refine ⟨?_, hisInt, fun j hj => absurd hj (Nat.not_lt_zero j)⟩
        rw [hcorrections]
        rfl
      have hpropose : I.clamper.propose ctx = .ok (.constant (.int (I.clamp n))) := by
        rw [Replacer.propose, clamper, Action.run, hinput]
        simp only [bind, Except.bind, I.clamp_bounds n]
        rfl
      simp only [hwithin, ↓reduceIte]
      exact (TwoPhases.replacement (mt hisGood.mp hwithin) hfirst hpropose rfl).probe_eq

end Check

/-! ## Verdicts -/

variable {I : Interval} {text : String} {k : Int64}

/-- A cell is valid when it holds a number within the bounds. -/
theorem verdict_eq_valid_iff :
    I.verdict text = .valid ↔ ∃ n, Number.ReadsAs text n ∧ I.Contains n := by
  simp only [← Constant.toInt?_string_eq_some_iff, verdict]
  cases (Constant.string text).toInt? with
  | none => simp
  | some n => by_cases hwithin : I.Contains n <;> simp [hwithin]

/-- A number is put for what the cell holds when that is a number outside the bounds, and then it is
the bound that is nearest. -/
theorem verdict_eq_replacement_iff : I.verdict text = .replacement (.int k) ↔
    ∃ n, Number.ReadsAs text n ∧ ¬ I.Contains n ∧ I.Nearest n k := by
  simp only [← Constant.toInt?_string_eq_some_iff, verdict]
  cases (Constant.string text).toInt? with
  | none => simp
  | some n =>
    by_cases hwithin : I.Contains n
    · simp [hwithin]
    · simp [hwithin, nearest_iff hwithin]

/-- Nothing is put for what the cell holds when that is no number. -/
theorem verdict_eq_invalid_iff : I.verdict text = .invalid ↔ ∀ n, ¬ Number.ReadsAs text n := by
  simp only [← Constant.toInt?_string_eq_some_iff, verdict]
  cases (Constant.string text).toInt? with
  | none => simp
  | some n => by_cases hwithin : I.Contains n <;> simp [hwithin]

/-- What is put for a number is a number that the cell may hold. -/
theorem verdict_text_of_replacement (h : I.verdict text = .replacement (.int k)) :
    I.verdict (Constant.int k).text = .valid := by
  obtain ⟨n, -, houtside, hnearest⟩ := verdict_eq_replacement_iff.mp h
  obtain rfl := (nearest_iff houtside).mp hnearest
  exact verdict_eq_valid_iff.mpr ⟨_, Constant.readsAs_text_int _, I.contains_clamp n⟩

end Interval

/-! ## What a workbench builds -/

namespace Workbench.Reachable

variable {w : Workbench} {vars : Variables} {optimize : Bool} {arguments : List Argument}
  {i : Instance}

/-- The check for a number within bounds is built of the arguments for them. -/
theorem builds_range (hw : w.Reachable) (vars : Variables) (optimize : Bool) (I : Interval) :
    w.Builds vars optimize .intRange I.arguments (.matcher I.range) := by
  obtain ⟨least, greatest, -⟩ := I
  cases least <;> cases greatest <;>
    exact hw.buildRegistered_builtin_eq_ok.mpr ⟨_, _, rfl, rfl, rfl, rfl⟩

/-- The correction to the nearest bound is built of the arguments for the bounds. -/
theorem builds_clamper (hw : w.Reachable) (vars : Variables) (optimize : Bool) (I : Interval) :
    w.Builds vars optimize .clampInt I.arguments (.replacer I.clamper) := by
  obtain ⟨least, greatest, -⟩ := I
  cases least <;> cases greatest <;>
    exact hw.buildRegistered_builtin_eq_ok.mpr ⟨_, _, rfl, rfl, rfl, rfl⟩

/-- The check for a number is built for the cell at hand. -/
theorem builds_isInt (hw : w.Reachable) (vars : Variables) (optimize : Bool) :
    w.Builds vars optimize .isInt [⟨"input", .cell .any⟩] (.matcher .isInt) :=
  hw.buildRegistered_builtin_eq_ok.mpr ⟨_, _, rfl, rfl, rfl, rfl⟩

/-- A rule on one input with bounds is built of arguments that are valid for a range. -/
theorem builds_bounded_iff (hw : w.Reachable) {b : Builtin}
    {make : List Argument → Param → RuleBody}
    (hformals : (Registry.builtinFactory b).signature.formals =
      (Registry.builtinFactory .intRange).signature.formals)
    (hbuild : ∀ valid p, Bound.valuesOf "input" valid = [p] → b.build valid = .ok (make valid p))
    (hkind : ∀ valid p, (make valid p).kind = b.kind) :
    w.Builds vars optimize b arguments i ↔ ∃ valid p,
      (Registry.builtinFactory .intRange).signature.validate vars arguments = .ok valid ∧
        Bound.valuesOf "input" valid = [p] ∧ (make valid p).toInstance b.name valid = i := by
  refine hw.buildRegistered_builtin_eq_ok.trans (exists_congr fun valid => ?_)
  rw [Signature.validate_eq_ok_congr hformals]
  constructor
  · rintro ⟨body, hvalid, hbody, -, hi⟩
    have htyped := Signature.typed_of_validate hvalid
    obtain ⟨p, hp⟩ : ∃ p, Bound.valuesOf "input" valid = [p] :=
      htyped.exists_valuesOf_eq (f := .single "input" .int) rfl rfl rfl
    obtain rfl := Except.ok.inj ((hbuild valid p hp).symm.trans hbody)
    exact ⟨p, hvalid, hp, hi⟩
  · rintro ⟨p, hvalid, hp, hi⟩
    exact ⟨_, hvalid, hbuild valid p hp, hkind valid p, hi⟩

/-- A check for a number within bounds is built of valid arguments, in which there is one input. -/
theorem builds_intRange_iff (hw : w.Reachable) : w.Builds vars optimize .intRange arguments i ↔
    ∃ valid p, (Registry.builtinFactory .intRange).signature.validate vars arguments = .ok valid ∧
      Bound.valuesOf "input" valid = [p] ∧
      (RuleBody.test (.intRange p.operand (Builtin.boundsOf valid))).toInstance "IntRange" valid
        = i := by
  refine hw.builds_bounded_iff (b := .intRange) rfl (fun valid p hp => ?_) fun _ _ => rfl
  rw [Builtin.build, Builtin.inputTest, Builtin.operandOf_of_valuesOf hp]
  rfl

/-- A correction to the nearest bound is built of the same arguments, in the same way. -/
theorem builds_clampInt_iff (hw : w.Reachable) : w.Builds vars optimize .clampInt arguments i ↔
    ∃ valid p, (Registry.builtinFactory .intRange).signature.validate vars arguments = .ok valid ∧
      Bound.valuesOf "input" valid = [p] ∧
      (RuleBody.action (.clamp p.operand (Builtin.boundsOf valid))).toInstance "ClampInt" valid
        = i := by
  have hformals : Builtin.clampInt.formals = Builtin.intRange.formals := rfl
  refine hw.builds_bounded_iff (b := .clampInt) (congrArg Formal.normalize hformals)
    (fun valid p hp => ?_) fun _ _ => rfl
  rw [Builtin.build, Builtin.inputAction, Builtin.operandOf_of_valuesOf hp]
  rfl

/-- A check and a correction that are built of the same arguments fail in the same contexts, and
with the same failures. -/
theorem accepts_eq_error_iff (hw : w.Reachable) {range : Matcher} {clamper : Replacer}
    (hrange : w.Builds vars optimize .intRange arguments (.matcher range))
    (hclamper : w.Builds vars optimize .clampInt arguments (.replacer clamper)) (ctx : Context)
    (e : EvalError) : range.accepts ctx = .error e ↔ clamper.propose ctx = .error e := by
  obtain ⟨valid, p, hvalid, hp, hi⟩ := hw.builds_intRange_iff.mp hrange
  obtain ⟨valid', p', hvalid', hp', hi'⟩ := hw.builds_clampInt_iff.mp hclamper
  obtain rfl := Except.ok.inj (hvalid.symm.trans hvalid')
  obtain rfl := List.singleton_inj.mp (hp.symm.trans hp')
  obtain rfl := Instance.matcher.inj hi
  obtain rfl := Instance.replacer.inj hi'
  exact Test.run_intRange_eq_error_iff p.operand (Builtin.boundsOf valid)

/-- A check is built of arguments of which a correction is built, and the other way round. -/
theorem exists_builds_intRange_iff (hw : w.Reachable) :
    (∃ range, w.Builds vars optimize .intRange arguments (.matcher range)) ↔
      ∃ clamper, w.Builds vars optimize .clampInt arguments (.replacer clamper) := by
  constructor
  · rintro ⟨range, h⟩
    obtain ⟨valid, p, hvalid, hp, -⟩ := hw.builds_intRange_iff.mp h
    exact ⟨_, hw.builds_clampInt_iff.mpr ⟨valid, p, hvalid, hp, rfl⟩⟩
  · rintro ⟨clamper, h⟩
    obtain ⟨valid, p, hvalid, hp, -⟩ := hw.builds_clampInt_iff.mp h
    exact ⟨_, hw.builds_intRange_iff.mpr ⟨valid, p, hvalid, hp, rfl⟩⟩

end Workbench.Reachable

/-- Checks for numbers within bounds, and corrections to the nearest bound, as a workbench builds
them. -/
structure Workbench.BuildsRanges (w : Workbench) (vars : Variables) (optimize : Bool) : Prop where
  /-- For the cell at hand they are built with any bounds in order. -/
  range : ∀ I : Interval, w.Builds vars optimize .intRange I.arguments (.matcher I.range)
  clamper : ∀ I : Interval, w.Builds vars optimize .clampInt I.arguments (.replacer I.clamper)
  isInt : w.Builds vars optimize .isInt [⟨"input", .cell .any⟩] (.matcher .isInt)
  /-- Of any arguments both are built, or neither. -/
  both : ∀ arguments, (∃ range, w.Builds vars optimize .intRange arguments (.matcher range)) ↔
    ∃ clamper, w.Builds vars optimize .clampInt arguments (.replacer clamper)
  /-- Built of the same arguments, they fail in the same contexts with the same failures. -/
  failsAlike : ∀ arguments range clamper,
    w.Builds vars optimize .intRange arguments (.matcher range) →
    w.Builds vars optimize .clampInt arguments (.replacer clamper) →
    ∀ ctx e, range.accepts ctx = .error e ↔ clamper.propose ctx = .error e

/-- On every reachable workbench ranges and clamps go together. -/
theorem Workbench.Reachable.buildsRanges {w : Workbench} (hw : w.Reachable) (vars : Variables)
    (optimize : Bool) : w.BuildsRanges vars optimize where
  range := hw.builds_range vars optimize
  clamper := hw.builds_clamper vars optimize
  isInt := hw.builds_isInt vars optimize
  both _ := hw.exists_builds_intRange_iff
  failsAlike _ _ _ hrange hclamper := hw.accepts_eq_error_iff hrange hclamper

/-! ## Cells -/

/-- The only rules on a cell are the check for a number within bounds and the correction to the
nearest of these. -/
structure Sheet.ClampedAt (s : Sheet) (row column : Nat) (I : Interval) : Prop where
  goodData : (s.rulesFor (s.addressOf row column)).flatMap CellRules.goodData = [I.range]
  corrections :
    (s.rulesFor (s.addressOf row column)).flatMap CellRules.corrections = [I.correction]

namespace Workbook

variable {b : Workbook} {vars : Variables} {s : Sheet} {row column : Nat} {I : Interval}

/-- A check of such a cell with a text laid over depends on the text alone. -/
theorem probeCell_eq_verdict (hs : s.WellFormed) (hsize : s.rowCount * s.columns < UInt32.size)
    (hrow : row < s.rowCount) (hcolumn : column < s.columns) (h : s.ClampedAt row column I)
    (text : String) :
    b.probeCell vars (some ⟨⟨s.name, row, column⟩, text⟩) s (s.numberOf row column) =
      I.verdict text := by
  simp only [probeCell, Sheet.addressOfId_numberOf hs hsize hrow hcolumn]
  refine I.probe_eq h.goodData h.corrections ?_
  have hlaid : b.overlaid (some ⟨⟨s.name, row, column⟩, text⟩) (s.addressOf row column) =
      .ok text := if_pos rfl
  exact congrArg (Except.mapError EvalError.dereference) hlaid

/-- A trial of a text in a cell that is checked for a number within bounds and corrected to the
nearest. -/
structure ClampRepairs (b : Workbook) (s : Sheet) (row column : Nat) (I : Interval) (text : String)
    (tried : Reply (Option Verdict)) : Prop where
  /-- There is a verdict. -/
  answered : ∃ v, tried.answer = .ok (some v)
  /-- The text is valid when it reads as a number within the bounds. -/
  valid : tried.answer = .ok (some .valid) ↔ ∃ n, Number.ReadsAs text n ∧ I.Contains n
  /-- A number is put for it when it reads as one outside of them, and this is the nearest bound. -/
  replacement : ∀ k, tried.answer = .ok (some (.replacement (.int k))) ↔
    ∃ n, Number.ReadsAs text n ∧ ¬ I.Contains n ∧ I.Nearest n k
  /-- Outside the bounds there is one that is nearest. -/
  outside : ∀ n, Number.ReadsAs text n → ¬ I.Contains n → ∃ k, I.Nearest n k
  /-- Nothing is put for it when it reads as no number. -/
  invalid : tried.answer = .ok (some .invalid) ↔ ∀ n, ¬ Number.ReadsAs text n
  /-- When the number that is put is written, before or after all, the cell is valid. -/
  repaired : ∀ k, tried.answer = .ok (some (.replacement (.int k))) →
    ∀ before, before = b ∨ before = tried.book → ∀ vars,
      let committed := before.setValueAt vars s.name row column (Constant.int k).text
      (∃ report, committed.answer = .ok report) ∧
        committed.book.verdictAt s.name row column = .ok (some .valid)

/-- A text that is written into such a cell leaves the verdict of the text. -/
theorem WellFormed.setValueAt_clamped (hb : b.WellFormed) (hs : b.sheet? s.name = some s)
    (hsize : s.rowCount * s.columns < UInt32.size) (hrow : row < s.rowCount)
    (hcolumn : column < s.columns) (h : s.ClampedAt row column I) (vars : Variables)
    (text : String) :
    (∃ report, (b.setValueAt vars s.name row column text).answer = .ok report) ∧
      (b.setValueAt vars s.name row column text).book.verdictAt s.name row column =
        .ok (some (I.verdict text)) := by
  obtain ⟨hanswered, hverdict⟩ := hb.verdictAt_setValueAt hs hrow hcolumn text
  rw [probeCell_eq_verdict (hb.sheets s (mem_of_sheet? hs)) hsize hrow hcolumn h] at hverdict
  exact ⟨hanswered, hverdict⟩

/-- In every reachable workbook a cell that is checked for a number within bounds and corrected to
the nearest of these is repaired by what is put for its text. -/
theorem Reachable.clampRepairs_tryValueAt (hb : b.Reachable) (hs : b.sheet? s.name = some s)
    (hsize : s.rowCount * s.columns < UInt32.size) (hrow : row < s.rowCount)
    (hcolumn : column < s.columns) (h : s.ClampedAt row column I) (vars : Variables)
    (text : String) :
    b.ClampRepairs s row column I text (b.tryValueAt vars s.name row column text) := by
  have hwell := hb.wellFormed
  have hfound : b.probeCell vars (some ⟨⟨s.name, row, column⟩, text⟩) s (s.numberOf row column) =
      I.verdict text :=
    probeCell_eq_verdict (hwell.sheets s (mem_of_sheet? hs)) hsize hrow hcolumn h text
  have hanswer (v : Verdict) : (b.tryValueAt vars s.name row column text).answer = .ok (some v) ↔
      I.verdict text = v := by
    rw [(answer_tryValueAt hs hrow hcolumn text).1, hfound, Except.ok.injEq, Option.some.injEq]
  constructor
  case answered => exact ⟨_, (hanswer _).mpr rfl⟩
  case valid => rw [hanswer, Interval.verdict_eq_valid_iff]
  case replacement =>
    intro k
    rw [hanswer, Interval.verdict_eq_replacement_iff]
  case outside => exact fun n _ houtside => ⟨_, (Interval.nearest_iff houtside).mpr rfl⟩
  case invalid => rw [hanswer, Interval.verdict_eq_invalid_iff]
  case repaired =>
    intro k hk before hbefore vars'
    rw [← Interval.verdict_text_of_replacement ((hanswer _).mp hk)]
    rcases hbefore with rfl | rfl
    · exact hwell.setValueAt_clamped hs hsize hrow hcolumn h vars' _
    · -- The trial leaves the sheet as it was but for its verdicts.
      let t := s.store ((b.reach s row column).map fun id =>
        (id, b.probeCell vars (some ⟨⟨s.name, row, column⟩, text⟩) s id))
      have htried : (b.tryValueAt vars s.name row column text).book.sheet? s.name = some t := by
        rw [tryValueAt_eq hs hrow hcolumn]
        exact sheet?_putSheet_self hs rfl
      have hreachable := hb.serve vars (.tryValueAt s.name row column text)
      exact hreachable.wellFormed.setValueAt_clamped (s := t) htried hsize hrow hcolumn
        ⟨h.goodData, h.corrections⟩ vars' _

/-- A range check is repaired by the clamp to its bounds: whatever workbench built them and whatever
workbook is reached, for every cell on which they are the only rules, and for every text. -/
theorem Reachable.clampRepairs {w : Workbench} (hw : w.Reachable) (hb : b.Reachable)
    (hs : b.sheet? s.name = some s) (hsize : s.rowCount * s.columns < UInt32.size)
    (hrow : row < s.rowCount) (hcolumn : column < s.columns) (h : s.ClampedAt row column I)
    (vars : Variables) (optimize : Bool) (text : String) :
    w.BuildsRanges vars optimize ∧
      b.ClampRepairs s row column I text (b.tryValueAt vars s.name row column text) :=
  ⟨hw.buildsRanges vars optimize, hb.clampRepairs_tryValueAt hs hsize hrow hcolumn h vars text⟩

/-- Numbers of one digit but zero. -/
def oneToNine : Interval where
  least := some 1
  greatest := some 9
  ordered := by
    rintro _ ⟨⟩ _ ⟨⟩
    decide

/-- A workbook of one cell that is checked for numbers from one to nine. -/
def digitBook : Workbook :=
  (((new .initial).serve .empty (.addSheet "S" 1)).serve .empty
    (.loadRows "S" [["5"]])).serve .empty
      (.attach "S" .any ⟨[oneToNine.range], [oneToNine.correction]⟩)

/-- In the cell of `digitBook` twelve, among blanks and with a sign, is corrected to nine, which is
valid there. -/
theorem clampRepairs_digitBook :
    let tried := digitBook.tryValueAt .empty "S" 0 0 " +12 "
    tried.answer = .ok (some (.replacement (.int 9))) ∧
      (tried.book.setValueAt .empty "S" 0 0 (Constant.int 9).text).book.verdictAt "S" 0 0 =
        .ok (some .valid) := by
  intro tried
  have hbench : (Workbench.new .withBuiltins).Reachable := ⟨[], rfl⟩
  have hbook : digitBook.Reachable :=
    (((Reachable.new .initial).serve .empty _).serve .empty _).serve .empty _
  let s := (digitBook.sheet? "S").get rfl
  have hs : digitBook.sheet? s.name = some s := rfl
  have hclamped : s.ClampedAt 0 0 oneToNine := ⟨rfl, rfl⟩
  obtain ⟨-, hrepairs⟩ := Reachable.clampRepairs hbench hbook hs (by decide) (by decide)
    (by decide) hclamped .empty true " +12 "
  have hreads : Number.ReadsAs " +12 " 12 :=
    Constant.toInt?_string_eq_some_iff.mp (by decide +kernel)
  have houtside : ¬ oneToNine.Contains 12 := by decide +kernel
  have hanswer := (hrepairs.replacement 9).mpr
    ⟨12, hreads, houtside, (Interval.nearest_iff houtside).mpr rfl⟩
  exact ⟨hanswer, (hrepairs.repaired 9 hanswer tried.book (.inr rfl) .empty).2⟩

end Workbook

end GridAudit
