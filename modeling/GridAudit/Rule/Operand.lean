import GridAudit.Rule.Context

/-!
# Operands

What the body of a rule reads: a constant, a variable, a cell, or another rule, which has no plain
value and shows only its kind and name. Reading an operand as a type converts the value found.
-/

namespace GridAudit

/-- The two kinds of rules. -/
inductive RuleKind where
  | matcher
  | replacer
  deriving DecidableEq, Inhabited

namespace RuleKind

/-- The type of rules of a kind. -/
def type : RuleKind → ValueType
  | .matcher => .matcher
  | .replacer => .replacer

/-- The name of a kind. -/
def name (k : RuleKind) : String := k.type.name

/-- The kind of a name. -/
def ofName? (s : String) : Option RuleKind :=
  if s = RuleKind.matcher.name then some .matcher
  else if s = RuleKind.replacer.name then some .replacer
  else none

end RuleKind

/-- An argument as the body of a rule sees it. -/
inductive Operand where
  | constant (value : Constant)
  | variable (v : Variable)
  | cell (target : CellRange)
  | rule (kind : RuleKind) (name : String)
  deriving DecidableEq, Inhabited

namespace Operand

/-- How an operand is called in messages. -/
def describe : Operand → String
  | .constant value => value.text
  | .variable v => s!"variable '{v.name}'"
  | .cell target => "cell " ++ target.text
  | .rule kind name => s!"{kind.name} '{name}'"

/-- The value behind an operand. -/
def resolve (ctx : Context) : Operand → Except EvalError Constant
  | .constant value => .ok value
  | .variable v => .ok (ctx.vars.get v)
  | .cell target => (ctx.read target).map .string
  | .rule kind name => .error (.unreadable (Operand.rule kind name).describe .string)

/-- The value behind an operand, read as a type. -/
def readAs {α : Type} (type : ValueType) (reading : Constant → Option α) (ctx : Context)
    (o : Operand) : Except EvalError α := do
  let value ← o.resolve ctx
  match reading value with
  | some a => .ok a
  | none => .error (.unreadable value.text type)

/-- The value behind an operand as text; every value has one. -/
def readString (ctx : Context) (o : Operand) : Except EvalError String := do
  let value ← o.resolve ctx
  return value.text

/-- The value behind an operand as a whole number. -/
def readInt : Context → Operand → Except EvalError Int64 := readAs .int Constant.toInt?

/-- The value behind an operand as a real number. -/
def readReal : Context → Operand → Except EvalError Float := readAs .real Constant.toReal?

/-- The value behind an operand as a character. -/
def readChar : Context → Operand → Except EvalError Char := readAs .char Constant.toChar?

end Operand

end GridAudit
