import GridAudit.Pattern.Program

/-!
# Searching for matches

A search keeps the threads of a match in order of preference and moves them all over one character
at a time, so its work is bounded by the size of the program for every character. Of two threads at
one instruction and one position the less preferred one is dropped: whatever it finds, the other
finds too. A match ends every thread less preferred than its own.
-/

namespace GridAudit.Pattern

/-- Positions noted by a thread, the latest first. -/
abbrev Notes := List (Nat × Nat)

/-- A thread of a match: the instruction it stands at and the positions it has noted. -/
structure Thread where
  address : Nat
  notes : Notes

/-- A position in a text: how many characters stand before it, and the ones on either side. -/
structure Position where
  index : Nat
  before : Option Char
  after : Option Char

/-- Threads that stand at a character to consume or at the end, and the addresses seen. -/
structure Settled where
  seen : Array Bool
  threads : List Thread

/-- Follow threads to where each consumes a character or accepts, taking the most preferred first.
Every step drops a thread or sees a new address, which bounds their number. -/
def settle (p : Program) (pos : Position) : Nat → List Thread → Settled → Settled
  | 0, _, s => s
  | _ + 1, [], s => s
  | fuel + 1, t :: rest, s =>
    if s.seen.getD t.address true then settle p pos fuel rest s
    else
      let s := { s with seen := s.seen.setIfInBounds t.address true }
      match p.code[t.address]? with
      | none => settle p pos fuel rest s
      | some (.part preferred other) =>
        settle p pos fuel (⟨preferred, t.notes⟩ :: ⟨other, t.notes⟩ :: rest) s
      | some (.test condition next) =>
        if condition.holds pos.before pos.after then settle p pos fuel (⟨next, t.notes⟩ :: rest) s
        else settle p pos fuel rest s
      | some (.note slot next) =>
        settle p pos fuel (⟨next, (slot, pos.index) :: t.notes⟩ :: rest) s
      | some _ => settle p pos fuel rest { s with threads := t :: s.threads }

/-- The threads to try at a position, in order of preference. -/
def settled (p : Program) (pos : Position) (threads : List Thread) : List Thread :=
  (settle p pos (2 * p.code.size + threads.length + 1) threads
    ⟨Array.replicate p.code.size false, []⟩).threads.reverse

/-- Move threads over a character, up to the first that accepts, whose notes are the match. -/
def advance (p : Program) (after : Option Char) : List Thread → List Thread × Option Notes
  | [] => ([], none)
  | t :: rest =>
    match p.code[t.address]? with
    | some .accept => ([], some t.notes)
    | some (.consume members next) =>
      let (moved, found) := advance p after rest
      if after.any members.contains then (⟨next, t.notes⟩ :: moved, found) else (moved, found)
    | _ => advance p after rest

/-- The preferred match among those that start first, searching from a position on. As long as there
is none, a thread of least preference starts at each position. -/
def search (p : Program) (index : Nat) (before : Option Char) (threads : List Thread)
    (best : Option Notes) : List Char → Option Notes
  | [] =>
    let starting := if best.isNone then threads ++ [⟨p.entry, []⟩] else threads
    (advance p none (settled p ⟨index, before, none⟩ starting)).2 <|> best
  | c :: rest =>
    let starting := if best.isNone then threads ++ [⟨p.entry, []⟩] else threads
    let (moved, found) := advance p (some c) (settled p ⟨index, before, some c⟩ starting)
    let best := found <|> best
    if moved.isEmpty && best.isSome then best else search p (index + 1) (some c) moved best rest

/-- Whether a pattern matches somewhere in a text. -/
def Program.matchesIn (p : Program) (text : List Char) : Bool :=
  (search p 0 none [] none text).isSome

/-- A match: where it starts and ends, and the positions noted for its groups. -/
structure Match where
  start : Nat
  finish : Nat
  notes : Notes

/-- The match that a thread's notes tell of. -/
def Match.ofNotes (notes : Notes) : Match :=
  ⟨(notes.lookup 0).getD 0, (notes.lookup 1).getD 0, notes⟩

/-- What a group of a match covers, if the group took part in it. -/
def Match.group? (m : Match) (index : Nat) : Option (Nat × Nat) := do
  let start ← m.notes.lookup (2 * index)
  let finish ← m.notes.lookup (2 * index + 1)
  some (start, finish)

/-- The matches in a text from left to right. Each search starts where the last match ended; an
empty match there is passed over and the search starts one character later. -/
def matchesFrom (p : Program) :
    Nat → Nat → Option Char → Option Nat → List Char → List Match
  | 0, _, _, _, _ => []
  | fuel + 1, index, before, last, text =>
    match search p index before [] none text with
    | none => []
    | some notes =>
      let m := Match.ofNotes notes
      if m.start = m.finish ∧ last = some m.finish then
        match text with
        | [] => []
        | c :: rest => matchesFrom p fuel (index + 1) (some c) last rest
      else
        let length := m.finish - index
        let before := if length = 0 then before else text[length - 1]?
        m :: matchesFrom p fuel m.finish before (some m.finish) (text.drop length)

/-- All matches in a text. -/
def Program.allMatches (p : Program) (text : List Char) : List Match :=
  matchesFrom p (2 * text.length + 2) 0 none none text

end GridAudit.Pattern
