import GridAudit.Address
import GridAudit.Text.Quoted
import GridAudit.Value

/-!
# What a rule sees while it runs

A rule runs for one cell. It may read the text of cells, with the open parts of a reference taken
from the cell it runs for, and the values of named variables, which change after rules have been
built with them. Both are given by the context; a rule changes neither.
-/

namespace GridAudit

/-- Why a cell cannot be read. -/
inductive DereferenceError where
  | noSheet (sheet : String)
  | noRow (sheet : String) (row : Nat)
  | noColumn (sheet : String) (column : Nat)
  deriving DecidableEq

/-- The wording of a failure to read a cell. -/
def DereferenceError.message : DereferenceError → String
  | .noSheet sheet => s!"no sheet named '{sheet}'"
  | .noRow sheet row => s!"row {row} is outside sheet '{sheet}'"
  | .noColumn sheet column => s!"column {column} is outside sheet '{sheet}'"

/-- Why a rule fails while it runs. -/
inductive EvalError where
  /-- What was found has no reading of the expected type. -/
  | unreadable (found : String) (expected : ValueType)
  /-- A cell cannot be read. -/
  | dereference (cause : DereferenceError)
  /-- A text read as a pattern is none. -/
  | badPattern (text : String)
  /-- The rule reports a failure of its own. -/
  | failed (reason : String)
  deriving DecidableEq

/-- The wording of a failure. -/
def EvalError.message : EvalError → String
  | .unreadable found expected => "cannot read " ++ Text.quote found ++ " as " ++ expected.name
  | .dereference cause => cause.message
  | .badPattern text => s!"invalid pattern '{text}'"
  | .failed reason => reason

/-- A named variable; the slot is where its value is kept, so that two variables of one name stay
apart. -/
structure Variable where
  name : String
  slot : Nat
  deriving DecidableEq, Inhabited

/-- The values of variables, by slot. -/
structure Variables where
  values : List Constant
  deriving DecidableEq, Inhabited

namespace Variables

/-- No variables. -/
def empty : Variables := ⟨[]⟩

/-- The value of a variable. A variable that was never declared is an empty text. -/
def get (vs : Variables) (v : Variable) : Constant := vs.values[v.slot]?.getD (.string "")

/-- A new variable with a value. -/
def declare (vs : Variables) (name : String) (value : Constant) : Variables × Variable :=
  (⟨vs.values ++ [value]⟩, ⟨name, vs.values.length⟩)

/-- A new value for a variable. -/
def assign (vs : Variables) (v : Variable) (value : Constant) : Variables :=
  ⟨vs.values.set v.slot value⟩

end Variables

/-- How the text of a cell is found. -/
abbrev CellSource := CellAddress → Except DereferenceError String

/-- The cells and variables a rule reads, and the cell it runs for. -/
structure Context where
  cells : CellSource
  vars : Variables
  origin : CellAddress

namespace Context

/-- A context without cells. -/
def detached (vars : Variables) : Context where
  cells a := .error (.noSheet a.sheet)
  vars
  origin := ⟨"", 0, 0⟩

/-- The text of the cell a reference means. -/
def read (ctx : Context) (target : CellRange) : Except EvalError String :=
  (ctx.cells (target.resolve ctx.origin)).mapError .dereference

end Context

end GridAudit
