import GridAudit.Number.Layout
import GridAudit.Number.Real
import GridAudit.Text.Blank

/-!
# Values

The types an argument of a rule may have, and the plain values among them. A plain value converts
to another plain type through its reading as text or as a number, when it has one; no plain value
is a matcher or a replacer.
-/

namespace GridAudit

/-- The types of arguments. -/
inductive ValueType where
  | string
  | int
  | real
  | char
  | matcher
  | replacer
  deriving DecidableEq, Inhabited

namespace ValueType

/-- Every type. -/
def all : List ValueType := [.string, .int, .real, .char, .matcher, .replacer]

/-- The name of a type. -/
def name : ValueType → String
  | .string => "String"
  | .int => "Int"
  | .real => "Real"
  | .char => "Char"
  | .matcher => "Matcher"
  | .replacer => "Replacer"

/-- The type of a name. -/
def ofName? (s : String) : Option ValueType := all.find? fun t => t.name = s

/-- Matchers and replacers are rules; the other types hold plain values. -/
def isRule : ValueType → Bool
  | .matcher | .replacer => true
  | _ => false

/-- Whether a type holds plain values. -/
def isPlain (t : ValueType) : Bool := !t.isRule

end ValueType

/-- A plain value. -/
inductive Constant where
  | string (value : String)
  | int (value : Int64)
  | real (value : Float)
  | char (value : Char)
  deriving DecidableEq, Inhabited

namespace Constant

/-- The type of a plain value. -/
def type : Constant → ValueType
  | .string _ => .string
  | .int _ => .int
  | .real _ => .real
  | .char _ => .char

/-- The text of a plain value. -/
def text : Constant → String
  | .string s => s
  | .int i => toString i.toInt
  | .real r => Number.plain.write r
  | .char c => String.singleton c

/-- The value as a whole number: a text without its surrounding blanks, a real number without
fraction between the bounds of 64 bits, or a digit. -/
def toInt? : Constant → Option Int64
  | .string s => Number.int64? (Text.trimChars s.toList)
  | .int i => some i
  | .real r =>
    if r.abs < 9223372036854775808.0 && r.toInt64.toFloat == r then some r.toInt64 else none
  | .char c => (Number.digit? c).map fun d => Int64.ofNat d

/-- The value as a real number: a text without its surrounding blanks, a whole number or a digit. -/
def toReal? : Constant → Option Float
  | .string s => Number.real? (Text.trimChars s.toList)
  | .int i => some i.toFloat
  | .real r => some r
  | .char c => (Number.digit? c).map Float.ofNat

/-- The value as a character: a text of one character, or a whole number of one digit. -/
def toChar? : Constant → Option Char
  | .string s => match s.toList with
    | [c] => some c
    | _ => none
  | .int i =>
    if 0 ≤ i.toInt ∧ i.toInt < 10 then some (Char.ofNat ('0'.toNat + i.toInt.toNat)) else none
  | .real _ => none
  | .char c => some c

/-- The value converted to a type, when it has a reading there. -/
def convert (c : Constant) : ValueType → Option Constant
  | .string => some (.string c.text)
  | .int => c.toInt?.map .int
  | .real => c.toReal?.map .real
  | .char => c.toChar?.map .char
  | .matcher | .replacer => none

end Constant

end GridAudit
