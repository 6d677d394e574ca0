import GridAudit.Rule.Test
import GridAudit.Text.Case

/-!
# Arguments and rules

The arguments of a rule are plain values, variables, cells and other rules. A rule keeps the name of
the factory that built it, its arguments, the addresses it may read, and a body: a test makes it a
matcher, an action a replacer. Any argument serves as a replacer that puts the argument itself.
-/

namespace GridAudit

/-- A value bound to a slot by name. -/
structure Bound (α : Type) where
  slot : String
  value : α

/-- A rule: the name of its factory, its arguments in order, the addresses it may read without
repeats, and its body. -/
structure Rule (α β : Type) where
  name : String
  arguments : List (Bound α)
  references : List CellRange
  body : β

/-- The body of a replacer. -/
inductive Action (α : Type) where
  /-- The value of an operand. -/
  | literal (value : Operand)
  /-- The input without blanks around it. -/
  | trim (input : Operand)
  /-- The input in upper case. -/
  | upper (input : Operand)
  /-- The input in lower case. -/
  | lower (input : Operand)
  /-- The parts one after another. -/
  | concat (parts : List Operand)
  /-- The input with every match of a pattern replaced. -/
  | replaceAll (input : Operand) (source : PatternSource) (replacement : Operand)
  /-- The whole number nearest to the input within bounds. -/
  | clamp (input : Operand) (bounds : Bounds)
  /-- An argument as it is. -/
  | verbatim (value : α)

/-- An argument of a rule. -/
inductive Param where
  | constant (value : Constant)
  | variable (v : Variable)
  | cell (target : CellRange)
  | matcher (rule : Rule Param Test)
  | replacer (rule : Rule Param (Action Param))

/-- An argument bound to a slot. -/
abbrev Argument := Bound Param

/-- A rule that accepts or refuses cells. -/
abbrev Matcher := Rule Param Test

/-- A rule that proposes a value for a cell. -/
abbrev Replacer := Rule Param (Action Param)

/-- Whether two arguments are bound to one slot, which is all that tells arguments apart. -/
def Bound.sameSlot {α : Type} (a b : Bound α) : Bool := a.slot = b.slot

/-- The slots of arguments, each where it first occurs. -/
def Bound.slots {α : Type} (arguments : List (Bound α)) : List String :=
  arguments.foldl (fun slots a => if slots.contains a.slot then slots else slots ++ [a.slot]) []

/-- The values bound to a slot, in order. -/
def Bound.valuesOf {α : Type} (slot : String) (arguments : List (Bound α)) : List α :=
  (arguments.filter (·.slot = slot)).map value

namespace Param

/-- The argument as the body of a rule sees it. -/
def operand : Param → Operand
  | .constant value => .constant value
  | .variable v => .variable v
  | .cell target => .cell target
  | .matcher rule => .rule .matcher rule.name
  | .replacer rule => .rule .replacer rule.name

/-- The type of an argument; cells hold text, and a variable has the type of its current value. -/
def type (vars : Variables) : Param → ValueType
  | .constant value => value.type
  | .variable v => (vars.get v).type
  | .cell _ => .string
  | .matcher _ => .matcher
  | .replacer _ => .replacer

/-- The value behind an argument. -/
def resolve (ctx : Context) (p : Param) : Except EvalError Constant := p.operand.resolve ctx

/-- The addresses an argument may read. -/
def references : Param → List CellRange
  | .constant _ | .variable _ => []
  | .cell target => [target]
  | .matcher rule => rule.references
  | .replacer rule => rule.references

/-- The matcher that an argument is. -/
def asMatcher : Param → Except EvalError Matcher
  | .matcher rule => .ok rule
  | p => .error (.unreadable p.operand.describe .matcher)

end Param

/-- The addresses that arguments may read, after inherited ones, without repeats. -/
def collectReferences (inherited : List CellRange) (arguments : List Argument) : List CellRange :=
  CellRange.distinct (inherited ++ arguments.flatMap fun a => a.value.references)

/-- The replacer that puts an argument as it is. -/
def Replacer.verbatim (value : Param) : Replacer where
  name := "verbatim"
  arguments := [⟨"value", value⟩]
  references := collectReferences [] [⟨"value", value⟩]
  body := .verbatim value

namespace Param

/-- The replacer that an argument is or serves as. -/
def asReplacer : Param → Replacer
  | .replacer rule => rule
  | p => Replacer.verbatim p

/-- The argument converted for a slot of plain values. Variables and cells are kept, since they are
read when the rule runs; a variable must convert as it stands. -/
def convertPlain (vars : Variables) (type : ValueType) : Param → Option Param
  | .constant value => (value.convert type).map .constant
  | .variable v => if ((vars.get v).convert type).isSome then some (.variable v) else none
  | .cell target => some (.cell target)
  | .matcher _ | .replacer _ => none

/-- The argument converted for a slot. Only a matcher is a matcher; anything is a replacer. -/
def convert (vars : Variables) (p : Param) : ValueType → Option Param
  | .matcher => match p with
    | .matcher rule => some (.matcher rule)
    | _ => none
  | .replacer => some (.replacer p.asReplacer)
  | type => p.convertPlain vars type

end Param

/-- Run a matcher. -/
def Matcher.accepts (m : Matcher) (ctx : Context) : Except EvalError Bool := m.body.run ctx

/-- Read texts and join them. -/
def Operand.readJoined (ctx : Context) : List Operand → Except EvalError String
  | [] => .ok ""
  | o :: rest => do
    let first ← o.readString ctx
    let more ← readJoined ctx rest
    return first ++ more

/-- Bring a value within the bounds, the least first, so that the greatest wins when they cross. -/
def Bounds.clamp (b : Bounds) (ctx : Context) (value : Int64) : Except EvalError Int64 := do
  let value ← match b.least with
    | none => pure value
    | some o => do
      let least ← o.readInt ctx
      pure (max value least)
  match b.greatest with
  | none => return value
  | some o => do
    let greatest ← o.readInt ctx
    return min value greatest

/-- Run an action. -/
def Action.run (ctx : Context) : Action Param → Except EvalError Param
  | .literal value => do
    let value ← value.resolve ctx
    return .constant value
  | .trim input => text Text.trim input
  | .upper input => text Text.Case.toUpper input
  | .lower input => text Text.Case.toLower input
  | .concat parts => do
    let joined ← Operand.readJoined ctx parts
    return .constant (.string joined)
  | .replaceAll input source replacement => do
    let found ← input.readString ctx
    let replacement ← replacement.readString ctx
    let program ← source.program ctx
    return .constant (.string (program.replaceAll found replacement))
  | .clamp input bounds => do
    let value ← input.readInt ctx
    let value ← bounds.clamp ctx value
    return .constant (.int value)
  | .verbatim value => .ok value
where
  /-- The text of an operand, changed. -/
  text (change : String → String) (input : Operand) : Except EvalError Param := do
    let found ← input.readString ctx
    return .constant (.string (change found))

/-- Run a replacer. -/
def Replacer.propose (r : Replacer) (ctx : Context) : Except EvalError Param := r.body.run ctx

/-- The value a replacer proposes. -/
def Replacer.proposeValue (r : Replacer) (ctx : Context) : Except EvalError Constant := do
  let proposed ← r.propose ctx
  proposed.resolve ctx

/-- A rule of either kind. -/
inductive Instance where
  | matcher (rule : Matcher)
  | replacer (rule : Replacer)

namespace Instance

/-- The kind of a rule. -/
def kind : Instance → RuleKind
  | .matcher _ => .matcher
  | .replacer _ => .replacer

/-- The name of a rule. -/
def name : Instance → String
  | .matcher rule => rule.name
  | .replacer rule => rule.name

/-- The arguments of a rule. -/
def arguments : Instance → List Argument
  | .matcher rule => rule.arguments
  | .replacer rule => rule.arguments

/-- The addresses a rule may read. -/
def references : Instance → List CellRange
  | .matcher rule => rule.references
  | .replacer rule => rule.references

/-- A rule as an argument. -/
def toParam : Instance → Param
  | .matcher rule => .matcher rule
  | .replacer rule => .replacer rule

/-- The rule as a matcher, if it is one. -/
def toMatcher? : Instance → Option Matcher
  | .matcher rule => some rule
  | .replacer _ => none

/-- The rule as a replacer, if it is one. -/
def toReplacer? : Instance → Option Replacer
  | .matcher _ => none
  | .replacer rule => some rule

/-- The rule under another name, with other arguments, which may read what it reads and what they
read. -/
def relabel (name : String) (arguments : List Argument) : Instance → Instance
  | .matcher rule =>
    .matcher ⟨name, arguments, collectReferences rule.references arguments, rule.body⟩
  | .replacer rule =>
    .replacer ⟨name, arguments, collectReferences rule.references arguments, rule.body⟩

end Instance

/-- The rule that an argument is. -/
def Param.toInstance? : Param → Option Instance
  | .matcher rule => some (.matcher rule)
  | .replacer rule => some (.replacer rule)
  | _ => none

end GridAudit
