import GridAudit.Number.Whole

/-!
# Real numbers in text

Reading of decimal fractions with an optional exponent, and of the words for infinity and for what
is no number. The value is the double nearest to the number written.
-/

namespace GridAudit.Number

/-- A decimal number `digits · 10 ^ exponent`. -/
structure Decimal where
  digits : Nat
  exponent : Int

/-- How many decimal digits a number has; zero has one. -/
def digitCount (n : Nat) : Nat := (Nat.toDigits 10 n).length

/-- The double nearest to a decimal number. Numbers beyond every double are infinite and numbers
below half of the least one are zero, whatever their exponent. -/
def Decimal.toFloat (d : Decimal) : Float :=
  let lead : Int := d.exponent + digitCount d.digits
  if d.digits = 0 ∨ lead < -400 then 0.0
  else if lead > 400 then 1.0 / 0.0
  else match d.exponent with
    | .ofNat e => Float.ofScientific d.digits false e
    | .negSucc e => Float.ofScientific d.digits true (e + 1)

/-- The ASCII digits a list starts with. -/
def leadingDigits (cs : List Char) : List Char := cs.takeWhile fun c => (digit? c).isSome

/-- A list from its first character on that is no ASCII digit. -/
def afterDigits (cs : List Char) : List Char := cs.dropWhile fun c => (digit? c).isSome

/-- The exponent a number ends with: nothing, or a letter, an optional sign and digits. -/
def exponent? : List Char → Option Int
  | [] => some 0
  | c :: rest => if c = 'e' ∨ c = 'E' then integer? rest else none

/-- A number without a sign: digits with an optional point among or around them, and an exponent. -/
def decimal? (cs : List Char) : Option Decimal :=
  let whole := leadingDigits cs
  let rest := afterDigits cs
  let fraction := match rest with
    | '.' :: more => leadingDigits more
    | _ => []
  let tail := match rest with
    | '.' :: more => afterDigits more
    | rest => rest
  match natural? (whole ++ fraction), exponent? tail with
  | some digits, some e => some ⟨digits, e - fraction.length⟩
  | _, _ => none

/-- The ASCII letters of a list in lower case. -/
def lowerLetters (cs : List Char) : List Char := cs.map Char.toLower

/-- A real number without a sign. -/
def unsignedReal? (cs : List Char) : Option Float :=
  match decimal? cs with
  | some d => some d.toFloat
  | none =>
    let word := String.ofList (lowerLetters cs)
    if word = "inf" ∨ word = "infinity" then some (1.0 / 0.0)
    else if word = "nan" then some (0.0 / 0.0)
    else none

/-- A real number: an optional sign, then digits or a word. -/
def real? : List Char → Option Float
  | '+' :: rest => unsignedReal? rest
  | '-' :: rest => (unsignedReal? rest).map fun x => -x
  | cs => unsignedReal? cs

end GridAudit.Number
