import GridAudit.Grid.Verdict

/-!
# Reports

A report tells which cells were checked, in order, how many of them a change reached by spreading,
and how many verdicts of each kind there were.
-/

namespace GridAudit

/-- What was checked and what came of it. -/
structure Report where
  evaluated : List CellAddress
  propagated : Nat
  valid : Nat
  replacement : Nat
  exception : Nat
  invalid : Nat
  deriving DecidableEq

namespace Report

/-- A report of nothing. -/
def empty : Report := ⟨[], 0, 0, 0, 0, 0⟩

/-- A verdict counted. -/
def count (r : Report) : Verdict → Report
  | .valid => { r with valid := r.valid + 1 }
  | .invalid => { r with invalid := r.invalid + 1 }
  | .replacement _ => { r with replacement := r.replacement + 1 }
  | .exception _ => { r with exception := r.exception + 1 }

/-- A further cell with its verdict. -/
def record (r : Report) (cell : CellAddress) (v : Verdict) : Report :=
  { r.count v with evaluated := r.evaluated ++ [cell] }

/-- The report of a list of cells with their verdicts. -/
def ofVerdicts (results : List (CellAddress × Verdict)) (propagated : Nat) : Report :=
  { results.foldl (fun r cell => r.record cell.1 cell.2) empty with propagated }

/-- Two reports, one after the other. -/
def merge (r s : Report) : Report where
  evaluated := r.evaluated ++ s.evaluated
  propagated := r.propagated + s.propagated
  valid := r.valid + s.valid
  replacement := r.replacement + s.replacement
  exception := r.exception + s.exception
  invalid := r.invalid + s.invalid

/-- The number of cells checked. -/
def evaluationCount (r : Report) : Nat := r.evaluated.length

/-- How often a cell was checked. -/
def timesEvaluated (r : Report) (cell : CellAddress) : Nat := r.evaluated.count cell

end Report

end GridAudit
