import GridAudit.Rule.Param

/-!
# Checking a cell

The rules on a cell are good-data matchers and corrections. A cell is valid when every matcher
accepts it. Otherwise the first correction whose matcher accepts proposes a value or fails to; with
none, the cell is invalid. A matcher that fails counts as one that refuses.
-/

namespace GridAudit

/-- A matcher and the replacer that corrects the cells it accepts. -/
structure Correction where
  matcher : Matcher
  replacer : Replacer

/-- The rules attached together. -/
structure CellRules where
  goodData : List Matcher
  corrections : List Correction

namespace CellRules

/-- No rules. -/
def none : CellRules := ⟨[], []⟩

/-- Whether there are no rules. -/
def isEmpty (r : CellRules) : Bool := r.goodData.isEmpty && r.corrections.isEmpty

/-- The addresses the rules may read, without repeats. -/
def references (r : CellRules) : List CellRange :=
  CellRange.distinct (r.goodData.flatMap Rule.references
    ++ r.corrections.flatMap fun c => c.matcher.references ++ c.replacer.references)

end CellRules

/-- What came of checking a cell. -/
inductive Verdict where
  /-- Every good-data matcher accepts the cell. -/
  | valid
  /-- The cell is not good data and no correction applies. -/
  | invalid
  /-- A correction proposes a value. -/
  | replacement (value : Constant)
  /-- A correction applies and fails. -/
  | exception (cause : EvalError)
  deriving DecidableEq

/-- Whether a matcher accepts; one that fails does not. -/
def Matcher.acceptsQuietly (m : Matcher) (ctx : Context) : Bool :=
  match m.accepts ctx with
  | .ok accepted => accepted
  | .error _ => false

/-- What a correction that applies comes to. -/
def Correction.apply (c : Correction) (ctx : Context) : Verdict :=
  match c.replacer.proposeValue ctx with
  | .ok value => .replacement value
  | .error cause => .exception cause

/-- Whether every good-data matcher of the rules accepts. -/
def goodDataPasses (rules : List CellRules) (ctx : Context) : Bool :=
  (rules.flatMap CellRules.goodData).all fun m => m.acceptsQuietly ctx

/-- The first correction that applies. -/
def firstCorrection? (rules : List CellRules) (ctx : Context) : Option Correction :=
  (rules.flatMap CellRules.corrections).find? fun c => c.matcher.acceptsQuietly ctx

/-- Check the cell of a context against rules, in order. -/
def probe (rules : List CellRules) (ctx : Context) : Verdict :=
  if goodDataPasses rules ctx then .valid
  else match firstCorrection? rules ctx with
    | some c => c.apply ctx
    | none => .invalid

end GridAudit
