import GridAudit.Grid.Workbook

/-!
# Traces

The text that accounts for a cell: its value, its last verdict, the rules on it with their arguments
as a tree, and the cells it depends on and that depend on it.
-/

namespace GridAudit.Trace

/-- How the last verdict of a cell is put. -/
def verdictText : Option Verdict → String
  | none => "unchecked"
  | some .valid => "valid"
  | some .invalid => "invalid, no correction"
  | some (.replacement value) => "invalid, suggest " ++ Text.quote value.text
  | some (.exception cause) => "invalid, correction failed: " ++ cause.message

/-- The mark of an entry among its siblings. -/
def connector (isLast : Bool) : String := if isLast then "`--" else "|--"

/-- What stands before the entries below an entry. -/
def below (stem : String) (isLast : Bool) : String := stem ++ if isLast then "    " else "|   "

/-- The line of a rule and what stands before its arguments. -/
def ruleLine (kind : RuleKind) (name stem label : String) (isLast : Bool) : String :=
  stem ++ connector isLast ++ " " ++ label ++ kind.name ++ " " ++ name

mutual

/-- The lines of an argument. -/
def argumentLines (vars : Variables) (stem slot : String) (isLast : Bool) : Param → List String
  | .constant value => [head ++ " = " ++ Text.quote value.text]
  | .variable v => [head ++ " = $" ++ v.name ++ " [" ++ Text.quote (vars.get v).text ++ "]"]
  | .cell target => [head ++ " = cell " ++ target.text]
  | .matcher rule => (head ++ ":") :: matcherLines vars (below stem isLast) "" true rule
  | .replacer rule => (head ++ ":") :: replacerLines vars (below stem isLast) "" true rule
where
  /-- The slot with the mark of its entry. -/
  head : String := stem ++ connector isLast ++ " " ++ slot

/-- The lines of a matcher and its arguments. -/
def matcherLines (vars : Variables) (stem label : String) (isLast : Bool) :
    Rule Param Test → List String
  | ⟨name, arguments, _, _⟩ =>
    ruleLine .matcher name stem label isLast :: argumentsLines vars (below stem isLast) arguments

/-- The lines of a replacer and its arguments. -/
def replacerLines (vars : Variables) (stem label : String) (isLast : Bool) :
    Rule Param (Action Param) → List String
  | ⟨name, arguments, _, _⟩ =>
    ruleLine .replacer name stem label isLast :: argumentsLines vars (below stem isLast) arguments

/-- The lines of arguments, the last of which is marked. -/
def argumentsLines (vars : Variables) (stem : String) : List (Bound Param) → List String
  | [] => []
  | ⟨slot, value⟩ :: rest =>
    argumentLines vars stem slot rest.isEmpty value ++ argumentsLines vars stem rest

end

/-- The lines of matchers, the last of which is marked. -/
def goodDataLines (vars : Variables) (stem : String) : List Matcher → List String
  | [] => []
  | m :: rest => matcherLines vars stem "" rest.isEmpty m ++ goodDataLines vars stem rest

/-- The lines of numbered corrections, the last of which is marked. -/
def correctionLines (vars : Variables) (stem : String) (number : Nat) :
    List Correction → List String
  | [] => []
  | c :: rest =>
    let inner := below stem rest.isEmpty
    (stem ++ connector rest.isEmpty ++ " #" ++ toString number)
      :: matcherLines vars inner "when " false c.matcher
      ++ replacerLines vars inner "then " true c.replacer
      ++ correctionLines vars stem (number + 1) rest

/-- Cells of a sheet in one line. -/
def cellsText (s : Sheet) (ids : List CellId) : String :=
  if ids.isEmpty then "-" else ", ".intercalate (ids.map fun id => (s.addressOfId id).text)

/-- The lines of a cell of a sheet. -/
def cellLines (vars : Variables) (s : Sheet) (cell : CellAddress) (text : String)
    (verdict : Option Verdict) (id : CellId) : List String :=
  let rules := s.rulesFor cell
  let goodData := rules.flatMap CellRules.goodData
  let corrections := rules.flatMap CellRules.corrections
  [s!"AUDIT TRACE for cell '{cell.text}':",
    "--------------------------------------------------",
    "Value:  " ++ Text.quote text,
    "Result: " ++ verdictText verdict,
    s!"|-- Good Data ({goodData.length})"]
    ++ goodDataLines vars "|   " goodData
    ++ [s!"|-- Error Correction ({corrections.length})"]
    ++ correctionLines vars "|   " 1 corrections
    ++ ["|-- Reads: " ++ cellsText s (s.graph.precedents id),
      "`-- Read by: " ++ cellsText s (s.graph.dependents id)]

/-- The lines of a cell of a workbook, or why there is none. -/
def linesOf (b : Workbook) (vars : Variables) (name : String) (row column : Nat) :
    Except SheetError (List String) := do
  let s ← b.sheet name
  let text ← s.valueAt row column
  let id ← s.cellId row column
  return cellLines vars s ⟨name, row, column⟩ text (s.ledger.get? id) id

/-- The trace of a cell; every line ends with a line feed. -/
def cell (b : Workbook) (vars : Variables) (name : String) (row column : Nat) : String :=
  let lines := match linesOf b vars name row column with
    | .ok lines => lines
    | .error e => ["Error: " ++ e.message]
  String.join (lines.map fun line => line ++ "\n")

end GridAudit.Trace
