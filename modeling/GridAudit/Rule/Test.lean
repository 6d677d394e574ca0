import GridAudit.Pattern.Replacement
import GridAudit.Rule.Operand

/-!
# Tests

The bodies of matchers. A test accepts a cell, refuses it, or fails because an operand cannot be
read. Operands are read in a fixed order, and a test stops reading once its answer is settled;
bounds are all read before they are compared.
-/

namespace GridAudit

/-- A pattern, compiled when the rule is built if its text is known then, and otherwise whenever the
rule runs. -/
inductive PatternSource where
  | compiled (program : Pattern.Program)
  | deferred (source : Operand) (whole : Bool)

namespace PatternSource

/-- The text of a pattern, set between the start and the end of the input when it must match the
whole of it. -/
def written (whole : Bool) (text : String) : String :=
  if whole then "^(?:" ++ text ++ ")$" else text

/-- A pattern given by an operand; a constant that is no pattern is refused. -/
def ofOperand? (whole : Bool) : Operand → Option PatternSource
  | .constant value => (Pattern.Program.ofText? (written whole value.text)).map .compiled
  | source => some (.deferred source whole)

/-- The compiled pattern. -/
def program (ctx : Context) : PatternSource → Except EvalError Pattern.Program
  | .compiled program => .ok program
  | .deferred source whole => do
    let text ← source.readString ctx
    match Pattern.Program.ofText? (written whole text) with
    | some program => .ok program
    | none => .error (.badPattern text)

end PatternSource

/-- Bounds of which either may be missing. -/
structure Bounds where
  least : Option Operand
  greatest : Option Operand

/-- Read a bound and compare; a missing bound bounds nothing. -/
def Bounds.check {α : Type} (read : Operand → Except EvalError α) (fits : α → Bool) :
    Option Operand → Except EvalError Bool
  | none => .ok true
  | some o => do
    let bound ← read o
    return fits bound

/-- Whether a value lies within the bounds, both of which are read. -/
def Bounds.hold {α : Type} (b : Bounds) (read : Operand → Except EvalError α) (le : α → α → Bool)
    (value : α) : Except EvalError Bool := do
  let above ← check read (fun bound => le bound value) b.least
  let below ← check read (fun bound => le value bound) b.greatest
  return above && below

/-- The body of a matcher. -/
inductive Test where
  /-- The input is the expected text. -/
  | equal (input against : Operand)
  /-- The input is the expected text but for blanks around either. -/
  | equalTrimmed (input against : Operand)
  /-- The input matches a pattern. -/
  | pattern (input : Operand) (source : PatternSource)
  /-- The input is a whole number within bounds. -/
  | intRange (input : Operand) (bounds : Bounds)
  /-- The input is a real number within bounds. -/
  | realRange (input : Operand) (bounds : Bounds)
  /-- The input has a number of characters within bounds. -/
  | length (input : Operand) (bounds : Bounds)
  /-- The input reads as a whole number. -/
  | isInt (input : Operand)
  /-- The input reads as a finite real number. -/
  | isReal (input : Operand)
  /-- The input is blank. -/
  | blank (input : Operand)
  /-- The inner test refuses. -/
  | not (inner : Test)
  /-- Every test accepts. -/
  | all (tests : List Test)
  /-- Some test accepts. -/
  | any (tests : List Test)
  /-- The input is one of the options. -/
  | oneOf (input : Operand) (options : List Operand)

/-- Whether a text is the text of an operand among those listed, which are read up to the first. -/
def Operand.anyReads (ctx : Context) (text : String) : List Operand → Except EvalError Bool
  | [] => .ok false
  | o :: rest => do
    let option ← o.readString ctx
    if option = text then return true else anyReads ctx text rest

namespace Test

mutual

/-- Run a test. -/
def run (ctx : Context) : Test → Except EvalError Bool
  | .equal input against => do
    let found ← input.readString ctx
    let expected ← against.readString ctx
    return found = expected
  | .equalTrimmed input against => do
    let found ← input.readString ctx
    let expected ← against.readString ctx
    return Text.trim found = Text.trim expected
  | .pattern input source => do
    let found ← input.readString ctx
    let program ← source.program ctx
    return program.matchesIn found.toList
  | .intRange input bounds => do
    let value ← input.readInt ctx
    bounds.hold (Operand.readInt ctx) (fun x y => x ≤ y) value
  | .realRange input bounds => do
    let value ← input.readReal ctx
    if value.isNaN then return false
    else bounds.hold (Operand.readReal ctx) (fun x y => x ≤ y) value
  | .length input bounds => do
    let found ← input.readString ctx
    bounds.hold (Operand.readInt ctx) (fun x y => x ≤ y) (Int64.ofNat found.length)
  | .isInt input => do
    let found ← input.readString ctx
    return (Number.int64? (Text.trimChars found.toList)).isSome
  | .isReal input => do
    let found ← input.readString ctx
    return (Number.real? (Text.trimChars found.toList)).any Float.isFinite
  | .blank input => do
    let found ← input.readString ctx
    return Text.isBlankText found
  | .not inner => do
    let accepted ← inner.run ctx
    return !accepted
  | .all tests => runAll ctx tests
  | .any tests => runAny ctx tests
  | .oneOf input options => do
    let found ← input.readString ctx
    Operand.anyReads ctx found options

/-- Run tests up to the first that refuses. -/
def runAll (ctx : Context) : List Test → Except EvalError Bool
  | [] => .ok true
  | t :: rest => do
    let accepted ← t.run ctx
    if accepted then runAll ctx rest else return false

/-- Run tests up to the first that accepts. -/
def runAny (ctx : Context) : List Test → Except EvalError Bool
  | [] => .ok false
  | t :: rest => do
    let accepted ← t.run ctx
    if accepted then return true else runAny ctx rest

end

end Test

end GridAudit
