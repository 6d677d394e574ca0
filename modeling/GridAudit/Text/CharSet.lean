/-!
# Sets of code points

A set of characters is the ascending list of its disjoint closed intervals of code points.
The tables of the Unicode standard are written as text, one `first-last` pair of hexadecimal
numbers per interval, and read once. Surrogates are code points too: no `Char` has one, so
whether a set holds them is never seen.
-/

namespace GridAudit

/-- Disjoint closed intervals of code points in ascending order. -/
structure CharSet where
  ranges : List (Nat × Nat)
  deriving DecidableEq, Inhabited

namespace CharSet

/-- The largest code point. -/
def maxCode : Nat := 0x10FFFF

/-- The set without members. -/
def empty : CharSet := ⟨[]⟩

/-- The set of every code point. -/
def full : CharSet := ⟨[(0, maxCode)]⟩

/-- The code points from `first` to `last`, both included. -/
def interval (first last : Nat) : CharSet := if first ≤ last then ⟨[(first, last)]⟩ else empty

/-- The set of one character. -/
def single (c : Char) : CharSet := ⟨[(c.toNat, c.toNat)]⟩

/-- Search ascending intervals, stopping at the first one that reaches `code`. -/
def holds (code : Nat) : List (Nat × Nat) → Bool
  | [] => false
  | (first, last) :: rest => if code ≤ last then first ≤ code else holds code rest

/-- Membership of a code point. -/
def hasCode (s : CharSet) (code : Nat) : Bool := holds code s.ranges

/-- Membership of a character. -/
def contains (s : CharSet) (c : Char) : Bool := s.hasCode c.toNat

/-- Whether the set has no member. -/
def isEmpty (s : CharSet) : Bool := s.ranges.isEmpty

/-- Whether every member is at most `code`. -/
def atMost (s : CharSet) (code : Nat) : Bool := s.ranges.all fun r => r.2 ≤ code

/-- Absorb intervals that overlap or touch the current one, from a list ascending by first point. -/
def absorb (first last : Nat) : List (Nat × Nat) → List (Nat × Nat)
  | [] => [(first, last)]
  | (a, b) :: rest =>
    if a ≤ last + 1 then absorb first (max last b) rest else (first, last) :: absorb a b rest

/-- Make intervals that ascend by first point disjoint. -/
def joined : List (Nat × Nat) → List (Nat × Nat)
  | [] => []
  | (first, last) :: rest => absorb first last rest

/-- The set of any list of intervals. -/
def ofRanges (ranges : List (Nat × Nat)) : CharSet :=
  ⟨joined (ranges.mergeSort fun x y => x.1 ≤ y.1)⟩

/-- The members of either set. -/
def union (s t : CharSet) : CharSet :=
  if s.ranges.isEmpty then t
  else if t.ranges.isEmpty then s
  else ⟨joined (List.merge s.ranges t.ranges fun x y => x.1 ≤ y.1)⟩

/-- The intervals between `start` and `limit` that an ascending list leaves out. -/
def gaps (start limit : Nat) : List (Nat × Nat) → List (Nat × Nat)
  | [] => if start ≤ limit then [(start, limit)] else []
  | (first, last) :: rest =>
    if start < first then (start, first - 1) :: gaps (last + 1) limit rest
    else gaps (last + 1) limit rest

/-- The code points up to `limit` outside the set. -/
def complementUpTo (limit : Nat) (s : CharSet) : CharSet := ⟨gaps 0 limit s.ranges⟩

/-- The code points outside the set. -/
def complement (s : CharSet) : CharSet := s.complementUpTo maxCode

/-- The members of both sets. -/
def inter (s t : CharSet) : CharSet := (s.complement.union t.complement).complement

/-- The members of the first set outside the second. -/
def diff (s t : CharSet) : CharSet := (s.complement.union t).complement

/-- The members of exactly one of the sets. -/
def symmDiff (s t : CharSet) : CharSet := (s.diff t).union (t.diff s)

/-- The members of any of the sets. -/
def unions (sets : List CharSet) : CharSet := ofRanges (sets.flatMap ranges)

/-- The value of a hexadecimal digit. -/
def hexDigit? (c : Char) : Option Nat :=
  if '0' ≤ c ∧ c ≤ '9' then some (c.toNat - '0'.toNat)
  else if 'a' ≤ c ∧ c ≤ 'f' then some (c.toNat - 'a'.toNat + 10)
  else if 'A' ≤ c ∧ c ≤ 'F' then some (c.toNat - 'A'.toNat + 10)
  else none

/-- A table being read: finished rows of numbers, the numbers of this row, the digits so far. -/
structure TableReader where
  rows : List (List Nat)
  row : List Nat
  number : Option Nat

/-- Finish the number being read. -/
def TableReader.endNumber (r : TableReader) : TableReader :=
  match r.number with
  | some n => ⟨r.rows, n :: r.row, none⟩
  | none => r

/-- Finish the row being read, unless it is empty. -/
def TableReader.endRow (r : TableReader) : TableReader :=
  let r := r.endNumber
  if r.row.isEmpty then r else ⟨r.row.reverse :: r.rows, [], none⟩

/-- Read one character: a hexadecimal digit, a blank that ends a row, or a mark within a row. -/
def TableReader.step (r : TableReader) (c : Char) : TableReader :=
  match hexDigit? c with
  | some d => ⟨r.rows, r.row, some (16 * r.number.getD 0 + d)⟩
  | none => if c = ' ' ∨ c = '\n' then r.endRow else r.endNumber

/-- The rows of a table: blanks separate rows, any other mark the hexadecimal numbers of a row. -/
def tableRows (text : String) : List (List Nat) :=
  (text.toList.foldl TableReader.step ⟨[], [], none⟩).endRow.rows.reverse

/-- The set written as `first-last` pairs in ascending order, a lone number being a pair. -/
def ofText (text : String) : CharSet :=
  ⟨(tableRows text).filterMap fun
    | [code] => some (code, code)
    | [first, last] => some (first, last)
    | _ => none⟩

end CharSet

end GridAudit
