import GridAudit.Pattern.Reader

/-!
# Programs of patterns

A shape compiles to a program whose instructions consume one character, test a position, note a
position or part into a preferred and another continuation. Compilation runs backwards: each piece
is given the address where the match goes on after it, and answers with the address where it starts.
-/

namespace GridAudit.Pattern

/-- One step of a match. -/
inductive Instruction where
  | consume (members : CharSet) (next : Nat)
  | test (condition : Assertion) (next : Nat)
  | note (slot : Nat) (next : Nat)
  | part (preferred other : Nat)
  | accept

/-- The instructions emitted so far, and the address where the match goes on. -/
structure Emitted where
  code : Array Instruction
  entry : Nat

/-- One more instruction, with which the match goes on. -/
def Emitted.push (e : Emitted) (i : Instruction) : Emitted := ⟨e.code.push i, e.code.size⟩

/-- A parting into the repeated piece and what follows it, by preference. -/
def parting (greedy : Bool) (inner outer : Nat) : Instruction :=
  if greedy then .part inner outer else .part outer inner

/-- A number of copies of a piece, one after another. -/
def Emitted.copies (piece : Emitted → Emitted) : Nat → Emitted → Emitted
  | 0, e => e
  | n + 1, e => piece (Emitted.copies piece n e)

/-- A number of optional copies of a piece, each but the first within the one before. -/
def Emitted.optionals (piece : Emitted → Emitted) (greedy : Bool) (out : Nat) :
    Nat → Emitted → Emitted
  | 0, e => e
  | n + 1, e =>
    let inner := piece (Emitted.optionals piece greedy out n e)
    inner.push (parting greedy inner.entry out)

/-- One or more copies of a piece: after each copy the match may enter it again. -/
def Emitted.loop (piece : Emitted → Emitted) (greedy : Bool) (e : Emitted) : Emitted :=
  let fork := e.code.size
  let inner := piece (e.push .accept)
  ⟨inner.code.setIfInBounds fork (parting greedy inner.entry e.entry), inner.entry⟩

/-- Any number of copies of a piece. A piece that may be empty is entered through a parting of its
own, so that an empty copy does not pass for having left the loop. -/
def Emitted.star (piece : Emitted → Emitted) (greedy neverEmpty : Bool) (e : Emitted) : Emitted :=
  let fork := e.code.size
  let looped := e.loop piece greedy
  if neverEmpty then ⟨looped.code, fork⟩ else looped.push (parting greedy looped.entry e.entry)

/-- Compile a shape in front of what has been emitted. -/
def Shape.emit : Shape → Emitted → Emitted
  | .empty, e => e
  | .set members, e => e.push (.consume members e.entry)
  | .assertion condition, e => e.push (.test condition e.entry)
  | .group index body, e =>
    let inner := body.emit (e.push (.note (2 * index + 1) e.entry))
    inner.push (.note (2 * index) inner.entry)
  | .sequence first second, e => first.emit (second.emit e)
  | .choice first second, e =>
    let other := second.emit e
    let preferred := first.emit ⟨other.code, e.entry⟩
    preferred.push (.part preferred.entry other.entry)
  | .repetition least greatest greedy body, e =>
    match greatest with
    | some n =>
      Emitted.copies body.emit least (Emitted.optionals body.emit greedy e.entry (n - least) e)
    | none =>
      if least = 0 then e.star body.emit greedy body.neverEmpty
      else Emitted.copies body.emit (least - 1) (e.loop body.emit greedy)

/-- A pattern ready to match: its program, where it starts, and the names of its groups. -/
structure Program where
  code : Array Instruction
  entry : Nat
  names : List (String × Nat)

/-- Compile a pattern. The slots of group zero hold the ends of the whole match. -/
def Source.compile (s : Source) : Program :=
  let e := (Shape.group 0 s.shape).emit ((Emitted.mk #[] 0).push .accept)
  ⟨e.code, e.entry, s.names⟩

/-- Compile a text, if it is a pattern. -/
def Program.ofText? (text : String) : Option Program := (Source.parse? text).map Source.compile

end GridAudit.Pattern
