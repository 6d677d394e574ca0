import GridAudit.Number.Layout
import GridAudit.Number.Whole

/-!
# JSON values

JSON values as they are written: members of objects in order and with repeats, and numbers by their
digits. Two things are settled only where a value is used: whether a number is within the range of
doubles, and whether the surrogate escapes of a string pair up into characters. A value nobody uses
may fail in either.

A text that ends too early or goes wrong tells something up to there, which is a value as well.
Whoever decodes a value goes through it in the order of the text, so that the first thing wrong
decides, be it a part of another shape or the place where the text breaks off.
-/

namespace GridAudit

/-- Why a text does not hold the value asked for. -/
inductive JsonFault where
  /-- The text ends too early. -/
  | truncated
  /-- The text is no JSON. -/
  | malformed
  /-- The JSON has another shape. -/
  | mismatched
  deriving DecidableEq

/-- A number by its digits; fraction and exponent may be missing, the exponent keeps its sign. -/
structure JsonNumber where
  negative : Bool
  whole : List Char
  fraction : List Char
  exponent : List Char
  deriving DecidableEq, Inhabited

/-- A JSON value. -/
inductive Json where
  | null
  | bool (value : Bool)
  | number (value : JsonNumber)
  /-- A string, absent when its surrogate escapes do not pair up. -/
  | string (value : Option String)
  | array (items : List Json)
  /-- An object. Its keys are values, as something else may stand where a key should. -/
  | object (members : List (Json × Json))
  /-- Nothing, where the text breaks off before a value begins. -/
  | absent
  /-- What the text has of a value when it breaks off, and the fault there: nothing, the string so
  far, or the items or members so far, the last of which may be torn itself. Of a number or a word
  nothing counts, and null stands for it. -/
  | torn (part : Json) (fault : JsonFault)
  deriving Inhabited

namespace JsonNumber

/-- The value of a number: a word without sign, a negative word, or a double. -/
inductive Value where
  | natural (n : Nat)
  | negative (i : Int64)
  | real (x : Float)

/-- Collect digits while the number stays a word; the digits left over come second. -/
def collect (n : Nat) : List Char → Nat × List Char
  | [] => (n, [])
  | c :: rest =>
    let next := 10 * n + (Number.digit? c).getD 0
    if next < Number.wordCount then collect next rest else (n, c :: rest)

/-- The powers of ten up to the largest that is a double. -/
def power (e : Nat) : Float := Float.ofScientific 1 false e

/-- Divide by the largest power of ten as often as the exponent needs it, then by the rest. -/
def divide (x : Float) : Nat → Nat → Float
  | 0, _ => x
  | steps + 1, e => if e ≤ 308 then x / power e else divide (x / power 308) steps (e - 308)

/-- Scale a number by a power of ten in double arithmetic, unless it leaves the range. -/
def scale (n : Nat) (exponent : Int) : Option Float :=
  let x := Float.ofNat n
  if n = 0 then some 0.0
  else if exponent < 0 then some (divide x 4 exponent.natAbs)
  else if exponent ≤ 308 then
    let y := x * power exponent.natAbs
    if y.isInf then none else some y
  else none

/-- The value of the digits of an exponent with their sign. -/
def exponentValue (cs : List Char) : Int := (Number.integer? cs).getD 0

/-- The double of a number: the leading digits that make a word, scaled by a power of ten. Digits
beyond them count for the exponent before the point and not at all after it. -/
def real? (n : JsonNumber) : Option Float :=
  let (whole, rest) := collect 0 n.whole
  let (significand, ignored) := collect whole n.fraction
  let taken := n.fraction.length - ignored.length
  let exponent := exponentValue n.exponent + rest.length - taken
  (scale significand exponent).map fun x => if n.negative then -x else x

/-- Whether a number is written without point and exponent. -/
def isWhole (n : JsonNumber) : Bool := n.fraction.isEmpty && n.exponent.isEmpty

/-- The value of a number, unless it leaves the range of doubles. Whole numbers beyond 64 bits and
the negative zero are doubles. -/
def value? (n : JsonNumber) : Option Value :=
  match n.isWhole, Number.natural? n.whole with
  | true, some m =>
    if n.negative then
      if 0 < m ∧ m ≤ Number.signBound then some (.negative (Int64.ofInt (-m)))
      else n.real?.map .real
    else if m < Number.wordCount then some (.natural m)
    else n.real?.map .real
  | _, _ => n.real?.map .real

/-- A natural number as written. -/
def ofNat (n : Nat) : JsonNumber := ⟨false, (toString n).toList, [], []⟩

/-- An integer as written. -/
def ofInt (i : Int) : JsonNumber := ⟨decide (i < 0), (toString i.natAbs).toList, [], []⟩

/-- A number from its text, cut at its point and its exponent. -/
def ofChars (cs : List Char) : JsonNumber :=
  let (negative, cs) := match cs with
    | '-' :: rest => (true, rest)
    | cs => (false, cs)
  let mantissa := cs.takeWhile (· ≠ 'e')
  { negative
    whole := mantissa.takeWhile (· ≠ '.')
    fraction := (mantissa.dropWhile (· ≠ '.')).drop 1
    exponent := (cs.dropWhile (· ≠ 'e')).drop 1 }

end JsonNumber

namespace Json

/-- Arrays and objects may be nested this deep in what is read. -/
def depthLimit : Nat := 127

/-- The items of an array, with the fault where the text breaks off within it. -/
def items? : Json → Option (List Json × Option JsonFault)
  | .array items => some (items, none)
  | .torn (.array items) fault => some (items, some fault)
  | _ => none

/-- The members of an object, with the fault where the text breaks off within it. -/
def members? : Json → Option (List (Json × Json) × Option JsonFault)
  | .object members => some (members, none)
  | .torn (.object members) fault => some (members, some fault)
  | _ => none

/-- The fault of a key that is used. -/
def keyFault : Json → Option JsonFault
  | .string s => if s.isSome then none else some .malformed
  | .torn .absent fault => some fault
  | .torn (.string s) fault => some (if s.isSome then fault else .malformed)
  | _ => some .malformed

mutual

/-- The first fault of a value, itself inside a number of arrays and objects, when every part of it
is used. -/
def faultWithin (depth : Nat) : Json → Option JsonFault
  | .null | .bool _ | .absent => none
  | .number n => if n.value?.isSome then none else some .malformed
  | .string s => if s.isSome then none else some .malformed
  | .array items => if depth < depthLimit then faultOfItems (depth + 1) items else some .malformed
  | .object members =>
    if depth < depthLimit then faultOfMembers (depth + 1) members else some .malformed
  | .torn part fault => (part.faultWithin depth).or (some fault)

/-- The first fault of a list of values. -/
def faultOfItems (depth : Nat) : List Json → Option JsonFault
  | [] => none
  | j :: rest => (j.faultWithin depth).or (faultOfItems depth rest)

/-- The first fault of a list of keys and values. -/
def faultOfMembers (depth : Nat) : List (Json × Json) → Option JsonFault
  | [] => none
  | (key, j) :: rest => key.keyFault.or ((j.faultWithin depth).or (faultOfMembers depth rest))

end

/-- A string. -/
def text (s : String) : Json := .string (some s)

/-- An object with the given members. -/
def record (members : List (String × Json)) : Json := .object (members.map fun m => (text m.1, m.2))

/-- A double; what is not finite is null. -/
def ofFloat (x : Float) : Json :=
  if x.isFinite then .number (JsonNumber.ofChars (Number.printed.write x).toList) else .null

end Json

end GridAudit
