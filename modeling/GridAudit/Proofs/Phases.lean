import GridAudit.Grid.Verdict
import GridAudit.Proofs.Results

/-!
# The two phases of a check

A check sees the rules on a cell as two lists, the good data and the corrections of all that was
attached, in the order of attachment and then of registration. First every matcher of the good data
has to accept. Only when one does not, the first correction whose matcher accepts decides, by what
its replacer proposes or by the failure that prevents it. The protocol is stated here apart from the
functions that follow it, and what it leaves open is stated of it: in which order and how often good
data is listed, what comes after the correction that decides, and whether a matcher that does not
accept refuses or fails.
-/

namespace GridAudit

/-- A matcher accepts quietly when it accepts. -/
theorem Matcher.acceptsQuietly_iff {m : Matcher} {ctx : Context} :
    m.acceptsQuietly ctx ↔ m.accepts ctx = .ok true := by
  unfold Matcher.acceptsQuietly
  cases m.accepts ctx <;> simp

/-- Matchers that a context tells apart at most by how they do not accept: one may refuse where the
other fails. -/
def Matcher.Interchangeable (ctx : Context) (m m' : Matcher) : Prop :=
  m = m' ∨ m.accepts ctx ≠ .ok true ∧ m'.accepts ctx ≠ .ok true

/-- Interchangeable matchers accept quietly alike. -/
theorem Matcher.Interchangeable.acceptsQuietly_eq {ctx : Context} {m m' : Matcher}
    (h : m.Interchangeable ctx m') : m.acceptsQuietly ctx = m'.acceptsQuietly ctx := by
  rcases h with rfl | ⟨h, h'⟩
  · rfl
  · rw [Bool.eq_iff_iff, acceptsQuietly_iff, acceptsQuietly_iff]
    exact iff_of_false h h'

/-! ## The protocol -/

/-- Every matcher of the good data accepts. -/
def IsGood (rules : List CellRules) (ctx : Context) : Prop :=
  ∀ m ∈ rules.flatMap CellRules.goodData, m.accepts ctx = .ok true

/-- A correction whose matcher accepts, and its number, which is the least of any such. -/
structure AppliesFirst (rules : List CellRules) (ctx : Context) (i : Nat) (c : Correction) :
    Prop where
  place : (rules.flatMap CellRules.corrections)[i]? = some c
  accepts : c.matcher.accepts ctx = .ok true
  least : ∀ j < i, ∀ d, (rules.flatMap CellRules.corrections)[j]? = some d →
    d.matcher.accepts ctx ≠ .ok true

/-- No matcher of a correction accepts. -/
def NoneApplies (rules : List CellRules) (ctx : Context) : Prop :=
  ∀ c ∈ rules.flatMap CellRules.corrections, c.matcher.accepts ctx ≠ .ok true

/-- What a check in two phases comes to. -/
inductive TwoPhases (rules : List CellRules) (ctx : Context) : Verdict → Prop
  /-- All good data accepts. -/
  | valid (hgood : IsGood rules ctx) : TwoPhases rules ctx .valid
  /-- The deciding correction proposes an argument that has a value. -/
  | replacement {i : Nat} {c : Correction} {p : Param} {value : Constant}
      (hbad : ¬ IsGood rules ctx) (hfirst : AppliesFirst rules ctx i c)
      (hpropose : c.replacer.propose ctx = .ok p) (hresolve : p.resolve ctx = .ok value) :
      TwoPhases rules ctx (.replacement value)
  /-- The deciding correction proposes nothing. -/
  | failed {i : Nat} {c : Correction} {cause : EvalError} (hbad : ¬ IsGood rules ctx)
      (hfirst : AppliesFirst rules ctx i c) (hpropose : c.replacer.propose ctx = .error cause) :
      TwoPhases rules ctx (.exception cause)
  /-- The deciding correction proposes an argument without a value. -/
  | unresolved {i : Nat} {c : Correction} {p : Param} {cause : EvalError}
      (hbad : ¬ IsGood rules ctx) (hfirst : AppliesFirst rules ctx i c)
      (hpropose : c.replacer.propose ctx = .ok p) (hresolve : p.resolve ctx = .error cause) :
      TwoPhases rules ctx (.exception cause)
  /-- No correction decides. -/
  | invalid (hbad : ¬ IsGood rules ctx) (hnone : NoneApplies rules ctx) :
      TwoPhases rules ctx .invalid

section Check

variable {rules rules' : List CellRules} {ctx : Context}

/-! ## The functions -/

/-- Good data passes when all of it accepts. -/
theorem goodDataPasses_iff : goodDataPasses rules ctx ↔ IsGood rules ctx := by
  rw [goodDataPasses, List.all_eq_true]
  exact forall₂_congr fun m _ => Matcher.acceptsQuietly_iff

/-- The correction that is found is the first one that applies. -/
theorem firstCorrection?_eq_some_iff {c : Correction} :
    firstCorrection? rules ctx = some c ↔ ∃ i, AppliesFirst rules ctx i c := by
  rw [firstCorrection?, List.find?_eq_some_iff_getElem]
  constructor
  · rintro ⟨haccepts, i, hi, hc, hleast⟩
    refine ⟨i, List.getElem?_eq_some_iff.mpr ⟨hi, hc⟩, Matcher.acceptsQuietly_iff.mp haccepts, ?_⟩
    intro j hj d hd
    obtain ⟨_, rfl⟩ := List.getElem?_eq_some_iff.mp hd
    have hrefused := hleast j hj
    rw [Bool.not_eq_true'] at hrefused
    exact fun h => Bool.eq_false_iff.mp hrefused (Matcher.acceptsQuietly_iff.mpr h)
  · rintro ⟨i, hplace, haccepts, hleast⟩
    obtain ⟨hi, hc⟩ := List.getElem?_eq_some_iff.mp hplace
    refine ⟨Matcher.acceptsQuietly_iff.mpr haccepts, i, hi, hc, fun j hj => ?_⟩
    rw [Bool.not_eq_true', Bool.eq_false_iff]
    exact fun h => hleast j hj _ (List.getElem?_eq_getElem _) (Matcher.acceptsQuietly_iff.mp h)

/-- No correction is found when none applies. -/
theorem firstCorrection?_eq_none_iff :
    firstCorrection? rules ctx = none ↔ NoneApplies rules ctx := by
  rw [firstCorrection?, List.find?_eq_none]
  exact forall₂_congr fun c _ => not_congr Matcher.acceptsQuietly_iff

/-- A check of bad data comes to what the first correction comes to, if any applies. -/
theorem probe_eq_of_not_isGood (hbad : ¬ IsGood rules ctx) :
    probe rules ctx = ((firstCorrection? rules ctx).map fun c => c.apply ctx).getD .invalid := by
  rw [probe, if_neg fun h => hbad (goodDataPasses_iff.mp h)]
  cases firstCorrection? rules ctx <;> rfl

/-- A check of good data finds the cell valid. -/
theorem probe_eq_of_isGood (hgood : IsGood rules ctx) : probe rules ctx = .valid := by
  rw [probe, if_pos (goodDataPasses_iff.mpr hgood)]

/-- A check comes to what the two phases come to. -/
theorem twoPhases_probe (rules : List CellRules) (ctx : Context) :
    TwoPhases rules ctx (probe rules ctx) := by
  by_cases hgood : IsGood rules ctx
  · rw [probe_eq_of_isGood hgood]
    exact .valid hgood
  · rw [probe_eq_of_not_isGood hgood]
    cases hfound : firstCorrection? rules ctx with
    | none => exact .invalid hgood (firstCorrection?_eq_none_iff.mp hfound)
    | some c =>
      obtain ⟨i, hfirst⟩ := firstCorrection?_eq_some_iff.mp hfound
      rw [Option.map_some, Option.getD_some, Correction.apply, Replacer.proposeValue]
      cases hpropose : c.replacer.propose ctx with
      | error cause => exact .failed hgood hfirst hpropose
      | ok p =>
        cases hresolve : p.resolve ctx with
        | error cause =>
          simp only [bind, Except.bind, hresolve]
          exact .unresolved hgood hfirst hpropose hresolve
        | ok value =>
          simp only [bind, Except.bind, hresolve]
          exact .replacement hgood hfirst hpropose hresolve

/-- At most one correction is the first to apply. -/
theorem AppliesFirst.unique {i j : Nat} {c d : Correction} (hc : AppliesFirst rules ctx i c)
    (hd : AppliesFirst rules ctx j d) : c = d :=
  Option.some.inj ((firstCorrection?_eq_some_iff.mpr ⟨i, hc⟩).symm.trans
    (firstCorrection?_eq_some_iff.mpr ⟨j, hd⟩))

/-- The two phases come to no more than one verdict. -/
theorem TwoPhases.probe_eq {v : Verdict} (h : TwoPhases rules ctx v) : probe rules ctx = v := by
  have hdecided {i : Nat} {c : Correction} (hbad : ¬ IsGood rules ctx)
      (hfirst : AppliesFirst rules ctx i c) : probe rules ctx = c.apply ctx := by
    rw [probe_eq_of_not_isGood hbad, firstCorrection?_eq_some_iff.mpr ⟨i, hfirst⟩]
    rfl
  cases h with
  | valid hgood => exact probe_eq_of_isGood hgood
  | replacement hbad hfirst hpropose hresolve =>
    rw [hdecided hbad hfirst, Correction.apply, Replacer.proposeValue, hpropose]
    simp only [bind, Except.bind, hresolve]
  | failed hbad hfirst hpropose =>
    rw [hdecided hbad hfirst, Correction.apply, Replacer.proposeValue, hpropose]
    rfl
  | unresolved hbad hfirst hpropose hresolve =>
    rw [hdecided hbad hfirst, Correction.apply, Replacer.proposeValue, hpropose]
    simp only [bind, Except.bind, hresolve]
  | invalid hbad hnone =>
    rw [probe_eq_of_not_isGood hbad, firstCorrection?_eq_none_iff.mpr hnone]
    rfl

/-! ## What the protocol leaves open -/

/-- Checks come to the same when good data passes in both or in neither, and the corrections found
come to the same. -/
theorem probe_congr (hgood : goodDataPasses rules ctx = goodDataPasses rules' ctx)
    (hfirst : (firstCorrection? rules ctx).map (fun c => c.apply ctx) =
      (firstCorrection? rules' ctx).map fun c => c.apply ctx) :
    probe rules ctx = probe rules' ctx := by
  by_cases hpasses : IsGood rules ctx
  · have hpasses' : IsGood rules' ctx := by
      rwa [← goodDataPasses_iff, ← hgood, goodDataPasses_iff]
    rw [probe_eq_of_isGood hpasses, probe_eq_of_isGood hpasses']
  · have hpasses' : ¬ IsGood rules' ctx := by
      rwa [← goodDataPasses_iff, ← hgood, goodDataPasses_iff]
    rw [probe_eq_of_not_isGood hpasses, hfirst, probe_eq_of_not_isGood hpasses']

/-- Good data passes alike when the same matchers are listed, in whatever order and number. -/
theorem goodDataPasses_congr_mem (h : ∀ m, m ∈ rules.flatMap CellRules.goodData ↔
    m ∈ rules'.flatMap CellRules.goodData) :
    goodDataPasses rules ctx = goodDataPasses rules' ctx := by
  rw [Bool.eq_iff_iff, goodDataPasses_iff, goodDataPasses_iff]
  exact forall_congr' fun m => imp_congr_left (h m)

/-- Matchers that are interchangeable one by one all accept, or not all of either list do. -/
theorem all_acceptsQuietly_congr {matchers matchers' : List Matcher}
    (h : List.Forall₂ (Matcher.Interchangeable ctx) matchers matchers') :
    (matchers.all fun m => m.acceptsQuietly ctx) = matchers'.all fun m => m.acceptsQuietly ctx := by
  induction h with
  | nil => rfl
  | cons hfirst _ ih => rw [List.all_cons, List.all_cons, hfirst.acceptsQuietly_eq, ih]

/-- A correction that is the first to apply stays so when what comes after it changes. -/
theorem AppliesFirst.of_take_eq {i : Nat} {c : Correction} (h : AppliesFirst rules ctx i c)
    (htake : (rules'.flatMap CellRules.corrections).take (i + 1) =
      (rules.flatMap CellRules.corrections).take (i + 1)) : AppliesFirst rules' ctx i c := by
  have hsame : ∀ j ≤ i, (rules'.flatMap CellRules.corrections)[j]? =
      (rules.flatMap CellRules.corrections)[j]? := by
    intro j hj
    have hj : j < i + 1 := Nat.lt_succ_of_le hj
    rw [← List.getElem?_take_of_lt hj, htake, List.getElem?_take_of_lt hj]
  refine ⟨(hsame i (Nat.le_refl i)).trans h.place, h.accepts, fun j hj d hd => ?_⟩
  exact h.least j hj d (hsame j (Nat.le_of_lt hj) ▸ hd)

/-- Corrections with the same replacer whose matchers are interchangeable. -/
structure Correction.Interchangeable (ctx : Context) (c d : Correction) : Prop where
  matcher : c.matcher.Interchangeable ctx d.matcher
  replacer : c.replacer = d.replacer

/-- The first of corrections to apply come to the same when they are interchangeable one by one. -/
theorem map_apply_find?_congr {corrections corrections' : List Correction}
    (h : List.Forall₂ (Correction.Interchangeable ctx) corrections corrections') :
    (corrections.find? fun c => c.matcher.acceptsQuietly ctx).map (fun c => c.apply ctx) =
      (corrections'.find? fun c => c.matcher.acceptsQuietly ctx).map fun c => c.apply ctx := by
  induction h with
  | nil => rfl
  | cons hfirst _ ih =>
    rw [List.find?_cons, List.find?_cons, hfirst.matcher.acceptsQuietly_eq]
    split
    · rw [Option.map_some, Correction.apply, hfirst.replacer, Option.map_some, Correction.apply]
    · exact ih

/-- A check of rules follows the protocol, and depends on no more than it. -/
structure FollowsPhases (rules : List CellRules) (ctx : Context) : Prop where
  /-- The verdict is the one that the two phases come to. -/
  verdict : ∀ v, probe rules ctx = v ↔ TwoPhases rules ctx v
  /-- A cell is valid when all good data accepts, whatever the corrections. -/
  valid : probe rules ctx = .valid ↔ IsGood rules ctx
  /-- A cell that is not good is left without a result when no correction applies. -/
  invalid : ¬ IsGood rules ctx → (probe rules ctx = .invalid ↔ NoneApplies rules ctx)
  /-- Good data may be listed in any order and any number of times. -/
  goodData : ∀ rules', (∀ m, m ∈ rules.flatMap CellRules.goodData ↔
      m ∈ rules'.flatMap CellRules.goodData) →
    rules.flatMap CellRules.corrections = rules'.flatMap CellRules.corrections →
    probe rules ctx = probe rules' ctx
  /-- Corrections after the first that applies make no difference. -/
  later : ∀ i c, AppliesFirst rules ctx i c → ∀ rules',
    rules.flatMap CellRules.goodData = rules'.flatMap CellRules.goodData →
    (rules'.flatMap CellRules.corrections).take (i + 1) =
      (rules.flatMap CellRules.corrections).take (i + 1) →
    probe rules ctx = probe rules' ctx
  /-- A matcher that fails may be exchanged for one that refuses, and the other way round. -/
  interchangeable : ∀ rules', List.Forall₂ (Matcher.Interchangeable ctx)
      (rules.flatMap CellRules.goodData) (rules'.flatMap CellRules.goodData) →
    List.Forall₂ (Correction.Interchangeable ctx) (rules.flatMap CellRules.corrections)
      (rules'.flatMap CellRules.corrections) →
    probe rules ctx = probe rules' ctx

/-- Every check follows the protocol of the two phases, and nothing else decides its verdict. -/
theorem followsPhases_probe (rules : List CellRules) (ctx : Context) :
    FollowsPhases rules ctx := by
  have hphases : TwoPhases rules ctx (probe rules ctx) := twoPhases_probe rules ctx
  constructor
  case verdict => exact fun v => ⟨fun h => h ▸ hphases, TwoPhases.probe_eq⟩
  case valid =>
    refine ⟨fun h => ?_, probe_eq_of_isGood⟩
    rw [h] at hphases
    cases hphases with
    | valid hgood => exact hgood
  case invalid =>
    refine fun hbad => ⟨fun h => ?_, fun hnone => (TwoPhases.invalid hbad hnone).probe_eq⟩
    rw [h] at hphases
    cases hphases with
    | invalid _ hnone => exact hnone
  case goodData =>
    intro rules' hgood hcorrections
    have hfirst : firstCorrection? rules ctx = firstCorrection? rules' ctx := by
      rw [firstCorrection?, hcorrections, firstCorrection?]
    exact probe_congr (goodDataPasses_congr_mem hgood) (congrArg _ hfirst)
  case later =>
    intro i c hfirst rules' hgood htake
    have hfound := firstCorrection?_eq_some_iff.mpr ⟨i, hfirst⟩
    have hfound' := firstCorrection?_eq_some_iff.mpr ⟨i, hfirst.of_take_eq htake⟩
    refine probe_congr ?_ (by rw [hfound, hfound'])
    rw [goodDataPasses, hgood, goodDataPasses]
  case interchangeable =>
    intro rules' hgood hcorrections
    exact probe_congr (all_acceptsQuietly_congr hgood) (map_apply_find?_congr hcorrections)

end Check

end GridAudit
