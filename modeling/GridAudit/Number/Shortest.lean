/-!
# The fewest digits that read back

Every finite double is written with the fewest significant digits whose value still rounds to it,
and of the candidates of that length with the nearest. The search is in exact arithmetic on the
significand and exponent of the double; the choice at a tie belongs to the layout of the text.
-/

namespace GridAudit.Number

/-- Which of two equally near candidates is taken. -/
inductive Tie where
  | upward
  | toEven

/-- A positive finite double `significand · 2 ^ exponent`; `atPower` when the double below it is
only half as far away as the one above it. -/
structure Binary where
  significand : Nat
  exponent : Int
  atPower : Bool

/-- The number of fractions between two powers of two, which take the low 52 bits. -/
def fractionCount : Nat := 0x10000000000000

/-- The parts of a positive finite double, from its bits. -/
def Binary.ofBits (bits : UInt64) : Binary :=
  let fraction : Nat := bits.toNat % fractionCount
  let biased : Nat := bits.toNat / fractionCount % 0x800
  if biased = 0 then ⟨fraction, -1074, false⟩
  else ⟨fractionCount + fraction, biased - 1075, fraction = 0 ∧ 1 < biased⟩

/-- The power of two or ten with a possibly negative exponent, as numerator and denominator. -/
def powerRatio (base : Nat) (exponent : Int) : Nat × Nat :=
  match exponent with
  | .ofNat e => (Nat.pow base e, 1)
  | .negSucc e => (1, Nat.pow base (e + 1))

/-- A double on the scale of a decimal grid: its value is `value / unit`, and the numbers that round
to it lie between `low / unit` and `high / unit`, the ends included when the significand is even. -/
structure Scaled where
  value : Nat
  low : Nat
  high : Nat
  unit : Nat
  closed : Bool

/-- A double in units of `10 ^ scale`. -/
def Binary.scaled (b : Binary) (scale : Int) : Scaled :=
  let two := powerRatio 2 b.exponent
  let ten := powerRatio 10 scale
  let factor := two.1 * ten.2
  { value := 4 * b.significand * factor
    low := (4 * b.significand - if b.atPower then 1 else 2) * factor
    high := (4 * b.significand + 2) * factor
    unit := 4 * two.2 * ten.1
    closed := b.significand % 2 = 0 }

/-- Whether a grid point rounds to the double. -/
def Scaled.covers (s : Scaled) (n : Nat) : Bool :=
  if s.closed then s.low ≤ n * s.unit && n * s.unit ≤ s.high
  else s.low < n * s.unit && n * s.unit < s.high

/-- The grid point nearest to the double among its two neighbours, if one rounds to it. -/
def Scaled.nearest (s : Scaled) (tie : Tie) : Option Nat :=
  let floor := s.value / s.unit
  let excess := s.value % s.unit
  match s.covers floor, s.covers (floor + 1) with
  | false, false => none
  | true, false => some floor
  | false, true => some (floor + 1)
  | true, true =>
    if 2 * excess < s.unit then some floor
    else if s.unit < 2 * excess then some (floor + 1)
    else match tie with
      | .upward => some (floor + 1)
      | .toEven => some (if floor % 2 = 0 then floor else floor + 1)

/-- The exponent of ten of the leading digit of a positive double, found downwards from a bound. -/
def Binary.leadFrom (b : Binary) (bound : Int) : Nat → Int
  | 0 => bound
  | steps + 1 =>
    let s := b.scaled bound
    if s.unit ≤ s.value then bound else b.leadFrom (bound - 1) steps

/-- A bound on the exponent of ten of the leading digit, at most two above it. -/
def Binary.leadBound (b : Binary) : Int :=
  (b.exponent + b.significand.log2 + 1) * 30103 / 100000 + 1

/-- The exponent of ten of the leading digit of a positive double. -/
def Binary.lead (b : Binary) : Int := b.leadFrom b.leadBound 4

/-- Significant digits, most significant first, with the exponent of ten of the first one. -/
structure Digits where
  digits : List Char
  lead : Int

/-- Search the grids of `count` digits and more, each ten times finer than the last. -/
def Binary.digitsFrom (b : Binary) (tie : Tie) (lead : Int) (count : Nat) : Nat → Digits
  | 0 => ⟨[], lead⟩
  | steps + 1 =>
    match (b.scaled (lead - count + 1)).nearest tie with
    | some n =>
      let digits := Nat.toDigits 10 n
      ⟨digits, lead + (digits.length - count)⟩
    | none => b.digitsFrom tie lead (count + 1) steps

/-- The fewest digits that read back to a positive double; seventeen always do. -/
def Binary.shortest (b : Binary) (tie : Tie) : Digits :=
  let found := b.digitsFrom tie b.lead 1 17
  ⟨(found.digits.reverse.dropWhile (· = '0')).reverse, found.lead⟩

end GridAudit.Number
