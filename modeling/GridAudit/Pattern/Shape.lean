import GridAudit.Text.Fold
import GridAudit.Text.Property

/-!
# Shapes of patterns

What a regular expression means once its flags are applied: sets of characters, positions, groups,
sequences, choices in order of preference and repetitions. The size of a shape estimates that of the
automaton which the library of regular expressions compiles it to. The library measures its automata
as it builds them, so near the limit it may refuse a pattern that is admitted here, and the reverse.
-/

namespace GridAudit.Pattern

/-- Whether a boundary concerns words of any script or ASCII words alone. -/
inductive WordKind where
  | unicode
  | ascii
  deriving DecidableEq

/-- Conditions on a position between two characters. -/
inductive Assertion where
  | start
  | finish
  | lineStart
  | lineEnd
  /-- A line also ends at a carriage return, and the pair of return and feed is one end. -/
  | crlfStart
  | crlfEnd
  | boundary (kind : WordKind)
  | notBoundary (kind : WordKind)
  | wordStart (kind : WordKind)
  | wordEnd (kind : WordKind)
  | wordStartHalf (kind : WordKind)
  | wordEndHalf (kind : WordKind)
  deriving DecidableEq

/-- ASCII letters, digits and the underscore. -/
def asciiWord : CharSet := ⟨[(0x30, 0x39), (0x41, 0x5A), (0x5F, 0x5F), (0x61, 0x7A)]⟩

/-- Whether a character belongs to a word. -/
def WordKind.contains (kind : WordKind) (c : Char) : Bool :=
  match kind with
  | .unicode => Text.Property.word.contains c
  | .ascii => asciiWord.contains c

/-- Whether a condition holds between the characters on either side of a position. -/
def Assertion.holds (before after : Option Char) : Assertion → Bool
  | .start => before.isNone
  | .finish => after.isNone
  | .lineStart => before.all (· = '\n')
  | .lineEnd => after.all (· = '\n')
  | .crlfStart => before.all fun c => c = '\n' || (c = '\r' && after != some '\n')
  | .crlfEnd => after.all fun c => c = '\r' || (c = '\n' && before != some '\r')
  | .boundary kind => before.any kind.contains != after.any kind.contains
  | .notBoundary kind => before.any kind.contains == after.any kind.contains
  | .wordStart kind => !before.any kind.contains && after.any kind.contains
  | .wordEnd kind => before.any kind.contains && !after.any kind.contains
  | .wordStartHalf kind => !before.any kind.contains
  | .wordEndHalf kind => !after.any kind.contains

/-- The meaning of a pattern. Earlier choices are preferred, as are more repetitions when `greedy`
and fewer when not. -/
inductive Shape where
  | empty
  | set (members : CharSet)
  | assertion (condition : Assertion)
  | group (index : Nat) (body : Shape)
  | sequence (first second : Shape)
  | choice (first second : Shape)
  | repetition (least : Nat) (greatest : Option Nat) (greedy : Bool) (body : Shape)

namespace Shape

/-- The sequence of a list of shapes. -/
def sequenceOf : List Shape → Shape
  | [] => empty
  | [s] => s
  | s :: rest => sequence s (sequenceOf rest)

/-- The choice among a list of shapes. -/
def choiceOf : List Shape → Shape
  | [] => empty
  | [s] => s
  | s :: rest => choice s (choiceOf rest)

/-- Whether every match is empty. -/
def onlyEmpty : Shape → Bool
  | .empty | .assertion _ => true
  | .set _ => false
  | .group _ body => body.onlyEmpty
  | .sequence first second => first.onlyEmpty && second.onlyEmpty
  | .choice first second => first.onlyEmpty && second.onlyEmpty
  | .repetition _ greatest _ body => greatest = some 0 || body.onlyEmpty

/-- Whether no match is empty. -/
def neverEmpty : Shape → Bool
  | .empty | .assertion _ => false
  | .set _ => true
  | .group _ body => body.neverEmpty
  | .sequence first second => first.neverEmpty || second.neverEmpty
  | .choice first second => first.neverEmpty && second.neverEmpty
  | .repetition least _ _ body => 0 < least && body.neverEmpty

/-- A repetition; what matches only the empty text is not repeated more than once. -/
def repeated (least : Nat) (greatest : Option Nat) (greedy : Bool) (body : Shape) : Shape :=
  if body.onlyEmpty then .repetition (min least 1) (some ((greatest.getD 1).min 1)) greedy body
  else .repetition least greatest greedy body

/-- An estimate of the size of the automaton for a set of characters, in bytes: one state for a
single octet, and otherwise a share for each interval, larger for those beyond ASCII. -/
def setSize (s : CharSet) : Nat :=
  s.ranges.foldl (fun size r => size + if r.2 < 0x80 then 8 else 64) 32

/-- An estimate of the size of the automaton for a shape, in bytes. -/
def size : Shape → Nat
  | .empty => 32
  | .set members => setSize members
  | .assertion _ => 32
  | .group _ body => 64 + body.size
  | .sequence first second => first.size + second.size
  | .choice first second => 40 + first.size + second.size
  | .repetition least greatest _ body => match greatest with
    | none => 64 + (max least 1) * body.size
    | some n => 32 + least * body.size + (n - least) * (40 + body.size)

/-- Patterns whose automata are larger than this are refused; as `size` is an estimate, acceptance is
only certain at some distance from the limit. -/
def sizeLimit : Nat := 10 * 0x100000

end Shape

end GridAudit.Pattern
