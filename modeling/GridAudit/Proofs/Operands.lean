import GridAudit.Proofs.Results
import GridAudit.Rule.Param

/-!
# What the bodies of rules read

The operands of a body are everything through which its run can depend on a context: two contexts
in which each of them has the same value, or fails in the same way, give the body the same outcome.
An operand need not be read in every run, since a body stops once its answer is settled. What a
replacer proposes is resolved once more, so the value it keeps as it is counts among its operands.
-/

namespace GridAudit

/-- The operand a pattern is read from when the rule runs. -/
def PatternSource.operands : PatternSource → List Operand
  | .compiled _ => []
  | .deferred source _ => [source]

/-- The operands of the bounds that are given. -/
def Bounds.operands (b : Bounds) : List Operand := b.least.toList ++ b.greatest.toList

namespace Test

mutual

/-- The operands of a test. -/
def operands : Test → List Operand
  | .equal input against | .equalTrimmed input against => [input, against]
  | .pattern input source => input :: source.operands
  | .intRange input bounds | .realRange input bounds | .length input bounds =>
    input :: bounds.operands
  | .isInt input | .isReal input | .blank input => [input]
  | .not inner => inner.operands
  | .all tests | .any tests => operandsOfAll tests
  | .oneOf input options => input :: options

/-- The operands of a list of tests. -/
def operandsOfAll : List Test → List Operand
  | [] => []
  | t :: rest => t.operands ++ operandsOfAll rest

end

/-- The operands of a list of tests are those of its members. -/
theorem operandsOfAll_eq (tests : List Test) : operandsOfAll tests = tests.flatMap operands := by
  induction tests with
  | nil => rfl
  | cons t rest ih => simp [operandsOfAll, ih]

end Test

/-- The operands of an action. -/
def Action.operands : Action Param → List Operand
  | .literal value => [value]
  | .trim input | .upper input | .lower input => [input]
  | .concat parts => parts
  | .replaceAll input source replacement => input :: replacement :: source.operands
  | .clamp input bounds => input :: bounds.operands
  | .verbatim value => [value.operand]

section Congruence

variable {ctx ctx' : Context}

/-- Operands of the same value are read alike as text. -/
theorem Operand.readString_congr {o o' : Operand} (h : o.resolve ctx = o'.resolve ctx') :
    o.readString ctx = o'.readString ctx' := by
  simp only [Operand.readString, h]

/-- Operands of the same value are read alike as whole numbers. -/
theorem Operand.readInt_congr {o o' : Operand} (h : o.resolve ctx = o'.resolve ctx') :
    o.readInt ctx = o'.readInt ctx' := by
  simp only [Operand.readInt, Operand.readAs, h]

/-- Operands of the same value are read alike as real numbers. -/
theorem Operand.readReal_congr {o o' : Operand} (h : o.resolve ctx = o'.resolve ctx') :
    o.readReal ctx = o'.readReal ctx' := by
  simp only [Operand.readReal, Operand.readAs, h]

/-- Options that are read alike are compared alike. -/
theorem Operand.anyReads_congr (text : String) {options options' : List Operand}
    (h : options.map (readString ctx) = options'.map (readString ctx')) :
    Operand.anyReads ctx text options = Operand.anyReads ctx' text options' := by
  induction options generalizing options' with
  | nil =>
    obtain rfl := List.map_eq_nil_iff.mp h.symm
    rfl
  | cons o rest ih =>
    obtain ⟨o', rest', rfl, ho, hrest⟩ := List.map_eq_cons_iff.mp h.symm
    simp only [Operand.anyReads, ho, ih hrest.symm]

/-- Parts that are read alike are joined alike. -/
theorem Operand.readJoined_congr {parts parts' : List Operand}
    (h : parts.map (readString ctx) = parts'.map (readString ctx')) :
    Operand.readJoined ctx parts = Operand.readJoined ctx' parts' := by
  induction parts generalizing parts' with
  | nil =>
    obtain rfl := List.map_eq_nil_iff.mp h.symm
    rfl
  | cons o rest ih =>
    obtain ⟨o', rest', rfl, ho, hrest⟩ := List.map_eq_cons_iff.mp h.symm
    simp only [Operand.readJoined, ho, ih hrest.symm]

/-- A pattern is compiled alike where the operand it is read from has the same value. -/
theorem PatternSource.program_congr (source : PatternSource)
    (h : ∀ o ∈ source.operands, o.resolve ctx = o.resolve ctx') :
    source.program ctx = source.program ctx' := by
  cases source with
  | compiled program => rfl
  | deferred source whole =>
    have hsource := Operand.readString_congr (h source List.mem_cons_self)
    simp only [PatternSource.program, hsource]

namespace Bounds

variable {α : Type} {read read' : Operand → Except EvalError α} {b b' : Bounds}

/-- One bound is compared alike where it is read alike. -/
theorem check_congr (fits : α → Bool) {bound bound' : Option Operand}
    (h : bound.map read = bound'.map read') :
    check read fits bound = check read' fits bound' := by
  cases bound <;> cases bound' <;> simp_all [check]

/-- Bounds are compared alike where each is read alike. -/
theorem hold_congr (le : α → α → Bool) (value : α) (hleast : b.least.map read = b'.least.map read')
    (hgreatest : b.greatest.map read = b'.greatest.map read') :
    b.hold read le value = b'.hold read' le value := by
  simp only [hold, check_congr (fun bound => le bound value) hleast,
    check_congr (fun bound => le value bound) hgreatest]

/-- A value is brought within bounds alike where each is read alike. -/
theorem clamp_congr (value : Int64)
    (hleast : b.least.map (Operand.readInt ctx) = b'.least.map (Operand.readInt ctx'))
    (hgreatest : b.greatest.map (Operand.readInt ctx) = b'.greatest.map (Operand.readInt ctx')) :
    b.clamp ctx value = b'.clamp ctx' value := by
  obtain ⟨least, greatest⟩ := b
  obtain ⟨least', greatest'⟩ := b'
  cases least <;> cases least' <;> cases greatest <;> cases greatest' <;> simp_all [clamp]

/-- Both bounds are read alike where every operand is. -/
theorem map_congr (h : ∀ o ∈ b.operands, read o = read' o) :
    b.least.map read = b.least.map read' ∧ b.greatest.map read = b.greatest.map read' :=
  ⟨Option.map_congr fun o ho => h o (List.mem_append_left _ (Option.mem_toList.mpr ho)),
    Option.map_congr fun o ho => h o (List.mem_append_right _ (Option.mem_toList.mpr ho))⟩

end Bounds

namespace Test

/-- Tests that run alike run alike up to the first that refuses. -/
theorem runAll_congr {tests tests' : List Test} (h : tests.map (run ctx) = tests'.map (run ctx')) :
    runAll ctx tests = runAll ctx' tests' := by
  induction tests generalizing tests' with
  | nil =>
    obtain rfl := List.map_eq_nil_iff.mp h.symm
    rfl
  | cons t rest ih =>
    obtain ⟨t', rest', rfl, ht, hrest⟩ := List.map_eq_cons_iff.mp h.symm
    simp only [runAll, ht, ih hrest.symm]

/-- Tests that run alike run alike up to the first that accepts. -/
theorem runAny_congr {tests tests' : List Test} (h : tests.map (run ctx) = tests'.map (run ctx')) :
    runAny ctx tests = runAny ctx' tests' := by
  induction tests generalizing tests' with
  | nil =>
    obtain rfl := List.map_eq_nil_iff.mp h.symm
    rfl
  | cons t rest ih =>
    obtain ⟨t', rest', rfl, ht, hrest⟩ := List.map_eq_cons_iff.mp h.symm
    simp only [runAny, ht, ih hrest.symm]

mutual

/-- A test depends on its context only through its operands. -/
theorem run_congr (t : Test) (h : ∀ o ∈ t.operands, o.resolve ctx = o.resolve ctx') :
    t.run ctx = t.run ctx' := by
  cases t with
  | equal input against | equalTrimmed input against =>
    have hinput := Operand.readString_congr (h input (by simp [operands]))
    have hagainst := Operand.readString_congr (h against (by simp [operands]))
    simp only [run, hinput, hagainst]
  | pattern input source =>
    have hinput := Operand.readString_congr (h input (by simp [operands]))
    have hsource := source.program_congr fun o ho => h o (by simp [operands, ho])
    simp only [run, hinput, hsource]
  | intRange input bounds =>
    have hinput := Operand.readInt_congr (h input (by simp [operands]))
    obtain ⟨hleast, hgreatest⟩ := Bounds.map_congr fun o ho =>
      Operand.readInt_congr (h o (List.mem_cons_of_mem _ ho))
    simp only [run, hinput, Bounds.hold_congr _ _ hleast hgreatest]
  | realRange input bounds =>
    have hinput := Operand.readReal_congr (h input (by simp [operands]))
    obtain ⟨hleast, hgreatest⟩ := Bounds.map_congr fun o ho =>
      Operand.readReal_congr (h o (List.mem_cons_of_mem _ ho))
    simp only [run, hinput, Bounds.hold_congr _ _ hleast hgreatest]
  | length input bounds =>
    have hinput := Operand.readString_congr (h input (by simp [operands]))
    obtain ⟨hleast, hgreatest⟩ := Bounds.map_congr fun o ho =>
      Operand.readInt_congr (h o (List.mem_cons_of_mem _ ho))
    simp only [run, hinput, Bounds.hold_congr _ _ hleast hgreatest]
  | isInt input | isReal input | blank input =>
    have hinput := Operand.readString_congr (h input (by simp [operands]))
    simp only [run, hinput]
  | not inner => simp only [run, inner.run_congr h]
  | all tests => simp only [run, runAll_congr (map_run_congr tests h)]
  | any tests => simp only [run, runAny_congr (map_run_congr tests h)]
  | oneOf input options =>
    have hinput := Operand.readString_congr (h input (by simp [operands]))
    have hoptions : options.map (Operand.readString ctx) = options.map (Operand.readString ctx') :=
      List.map_congr_left fun o ho => Operand.readString_congr (h o (List.mem_cons_of_mem _ ho))
    simp only [run, hinput, Operand.anyReads_congr _ hoptions]

/-- Tests depend on their context only through their operands. -/
theorem map_run_congr (tests : List Test)
    (h : ∀ o ∈ operandsOfAll tests, o.resolve ctx = o.resolve ctx') :
    tests.map (run ctx) = tests.map (run ctx') := by
  cases tests with
  | nil => rfl
  | cons t rest =>
    have hfirst := t.run_congr fun o ho => h o (List.mem_append_left _ ho)
    have hrest := map_run_congr rest fun o ho => h o (List.mem_append_right _ ho)
    simp only [List.map_cons, hfirst, hrest]

end

end Test

/-- An action proposes the same argument in contexts that agree on its operands. -/
theorem Action.run_congr (a : Action Param) (h : ∀ o ∈ a.operands, o.resolve ctx = o.resolve ctx') :
    a.run ctx = a.run ctx' := by
  cases a with
  | literal value => simp only [Action.run, h value (by simp [operands])]
  | trim input | upper input | lower input =>
    have hinput := Operand.readString_congr (h input (by simp [operands]))
    simp only [Action.run, Action.run.text, hinput]
  | concat parts =>
    have hparts : parts.map (Operand.readString ctx) = parts.map (Operand.readString ctx') :=
      List.map_congr_left fun o ho => Operand.readString_congr (h o ho)
    simp only [Action.run, Operand.readJoined_congr hparts]
  | replaceAll input source replacement =>
    have hinput := Operand.readString_congr (h input (by simp [operands]))
    have hreplacement := Operand.readString_congr (h replacement (by simp [operands]))
    have hsource := source.program_congr fun o ho => h o (by simp [operands, ho])
    simp only [Action.run, hinput, hreplacement, hsource]
  | clamp input bounds =>
    have hinput := Operand.readInt_congr (h input (by simp [operands]))
    obtain ⟨hleast, hgreatest⟩ := Bounds.map_congr fun o ho =>
      Operand.readInt_congr (h o (List.mem_cons_of_mem _ ho))
    simp only [Action.run, hinput, Bounds.clamp_congr _ hleast hgreatest]
  | verbatim value => rfl

/-- An action proposes a constant, unless it puts an argument as it is. -/
theorem Action.constant_or_verbatim_of_run {a : Action Param} {p : Param} (h : a.run ctx = .ok p) :
    (∃ value, p = .constant value) ∨ a = .verbatim p := by
  cases a with
  | literal value =>
    obtain ⟨value, -, h⟩ := bind_eq_ok.mp h
    exact .inl ⟨value, (Except.ok.inj h).symm⟩
  | trim input | upper input | lower input =>
    obtain ⟨found, -, h⟩ := bind_eq_ok.mp h
    exact .inl ⟨_, (Except.ok.inj h).symm⟩
  | concat parts =>
    obtain ⟨joined, -, h⟩ := bind_eq_ok.mp h
    exact .inl ⟨_, (Except.ok.inj h).symm⟩
  | replaceAll input source replacement =>
    obtain ⟨found, -, h⟩ := bind_eq_ok.mp h
    obtain ⟨replacement, -, h⟩ := bind_eq_ok.mp h
    obtain ⟨program, -, h⟩ := bind_eq_ok.mp h
    exact .inl ⟨_, (Except.ok.inj h).symm⟩
  | clamp input bounds =>
    obtain ⟨value, -, h⟩ := bind_eq_ok.mp h
    obtain ⟨value, -, h⟩ := bind_eq_ok.mp h
    exact .inl ⟨_, (Except.ok.inj h).symm⟩
  | verbatim value => exact .inr (congrArg Action.verbatim (Except.ok.inj h))

/-- The value a replacer proposes depends on its context only through the operands of its body. -/
theorem Replacer.proposeValue_congr (r : Replacer)
    (h : ∀ o ∈ r.body.operands, o.resolve ctx = o.resolve ctx') :
    r.proposeValue ctx = r.proposeValue ctx' := by
  have hpropose : r.propose ctx = r.propose ctx' := r.body.run_congr h
  unfold Replacer.proposeValue
  rw [hpropose]
  cases hp : r.propose ctx' with
  | error e => rfl
  | ok p =>
    -- What is proposed is resolved in either context; only an argument put as it is can differ.
    rcases Action.constant_or_verbatim_of_run hp with ⟨value, rfl⟩ | hbody
    · rfl
    · exact h p.operand (by simp [hbody, Action.operands])

end Congruence

end GridAudit
