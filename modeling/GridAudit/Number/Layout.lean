import GridAudit.Number.Shortest
import GridAudit.Number.Whole

/-!
# Layouts of real numbers

A layout says how the fewest digits of a double are laid out: which way a tie goes, between which
exponents the point is placed among the digits, and whether a whole number keeps a fraction. There
are two: the plain one of values and messages, and the one of printed definitions.
-/

namespace GridAudit.Number

/-- The layout of a finite double. Outside the exponents `least` to `greatest` of its leading digit
the number is written with an exponent. -/
structure Layout where
  tie : Tie
  least : Option Int
  greatest : Option Int
  wholeFraction : Bool

/-- Every digit is written out, and a whole number has no point. -/
def plain : Layout := ⟨.upward, none, none, false⟩

/-- Numbers from 0.00001 up to 10 ^ 16 are written out, the others with a signed exponent, and a
whole number ends in `.0`. -/
def printed : Layout := ⟨.toEven, some (-5), some 15, true⟩

/-- Whether a number with this leading exponent is written out. -/
def Layout.positional (f : Layout) (lead : Int) : Bool :=
  f.least.all (· ≤ lead) && f.greatest.all (lead ≤ ·)

/-- The digits with the point where it belongs. -/
def Layout.writeOut (f : Layout) (d : Digits) : List Char :=
  let whole := if d.lead < 0 then ['0'] else
    (d.digits ++ List.replicate (d.lead.toNat + 1 - d.digits.length) '0').take (d.lead.toNat + 1)
  let fraction := if d.lead < 0 then List.replicate (-d.lead - 1).toNat '0' ++ d.digits
    else d.digits.drop (d.lead.toNat + 1)
  if fraction.isEmpty then whole ++ (if f.wholeFraction then ['.', '0'] else [])
  else whole ++ '.' :: fraction

/-- The digits with an exponent: the point follows the first digit, and the exponent has a sign. -/
def writeExponent (d : Digits) : List Char :=
  let exponent := if d.lead < 0 then 'e' :: '-' :: (toString (-d.lead)).toList
    else 'e' :: '+' :: (toString d.lead).toList
  match d.digits with
  | [] => exponent
  | [one] => one :: exponent
  | first :: rest => first :: '.' :: rest ++ exponent

/-- A positive finite double, from its bits. -/
def Layout.writePositive (f : Layout) (bits : UInt64) : List Char :=
  let d := (Binary.ofBits bits).shortest f.tie
  if f.positional d.lead then f.writeOut d else writeExponent d

/-- A double. Zero keeps its sign; what is no number has none. -/
def Layout.write (f : Layout) (x : Float) : String :=
  if x.isNaN then "NaN"
  else
    let bits := x.toBits
    let sign := if bits.toNat < signBound then [] else ['-']
    let magnitude := bits.toNat % signBound
    String.ofList (sign ++
      if x.isInf then ['i', 'n', 'f']
      else if magnitude = 0 then f.writeOut ⟨['0'], 0⟩
      else f.writePositive magnitude.toUInt64)

end GridAudit.Number
