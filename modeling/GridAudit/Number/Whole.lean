/-!
# Whole numbers in text

Reading of decimal integers: natural numbers below a bound with an optional plus sign, which serve
as indices, and signed numbers of 64 bits.
-/

namespace GridAudit.Number

/-- The value of an ASCII digit. -/
def digit? (c : Char) : Option Nat :=
  if '0' ≤ c ∧ c ≤ '9' then some (c.toNat - '0'.toNat) else none

/-- Continue a decimal number with further digits. -/
def digitsFrom (value : Nat) : List Char → Option Nat
  | [] => some value
  | c :: rest => match digit? c with
    | some d => digitsFrom (10 * value + d) rest
    | none => none

/-- The number that one or more digits write. -/
def natural? : List Char → Option Nat
  | [] => none
  | cs => digitsFrom 0 cs

/-- The number of words of 64 bits; indices are below it. -/
def wordCount : Nat := 0x10000000000000000

/-- The number of words of 64 bits without a sign; signed words are below it. -/
def signBound : Nat := 0x8000000000000000

/-- An index: an optional plus sign and digits. -/
def index? (cs : List Char) : Option Nat :=
  let digits := match cs with
    | '+' :: rest => rest
    | cs => cs
  match natural? digits with
  | some n => if n < wordCount then some n else none
  | none => none

/-- A signed number: an optional sign and digits. -/
def integer? : List Char → Option Int
  | '+' :: rest => (natural? rest).map Int.ofNat
  | '-' :: rest => (natural? rest).map fun n => -(n : Int)
  | cs => (natural? cs).map Int.ofNat

/-- The word of an integer, when it has one. -/
def word? (i : Int) : Option Int64 :=
  if -(signBound : Int) ≤ i ∧ i < signBound then some (Int64.ofInt i) else none

/-- A signed number of 64 bits. -/
def int64? (cs : List Char) : Option Int64 := (integer? cs).bind word?

end GridAudit.Number
