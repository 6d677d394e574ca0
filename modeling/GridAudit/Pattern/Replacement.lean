import GridAudit.Pattern.Search

/-!
# Replacing matches

A replacement text is copied for every match, with references to groups filled in: `$n` and `$name`
take the longest run of letters, digits and underscores, braces set a reference off from what
follows, and two dollar signs stand for one. A reference to no group of the pattern, or to one that
took no part in the match, stands for nothing.
-/

namespace GridAudit.Pattern

/-- A part of a replacement text. -/
inductive Part where
  | plain (c : Char)
  | index (n : Nat)
  | name (s : String)

/-- Whether a character may stand in a reference without braces. -/
def isReferenceChar (c : Char) : Bool := c.isAlphanum || c = '_'

/-- A reference to a group by number when it reads as an index, and by name otherwise. -/
def Part.ofReference (cs : List Char) : Part :=
  match Number.index? cs with
  | some n => .index n
  | none => .name (String.ofList cs)

/-- What stands after a dollar sign: a part and how many characters it takes, if they are one. -/
def referenceAt : List Char → Option (Part × Nat)
  | '$' :: _ => some (.plain '$', 1)
  | '{' :: rest =>
    let name := rest.takeWhile (· ≠ '}')
    if name.length < rest.length then some (Part.ofReference name, name.length + 2) else none
  | cs =>
    let name := cs.takeWhile isReferenceChar
    if name.isEmpty then none else some (Part.ofReference name, name.length)

/-- The parts of a replacement text, of which `skip` more characters belong to the last one. -/
def partsFrom (skip : Nat) : List Char → List Part
  | [] => []
  | c :: rest =>
    match skip with
    | skip + 1 => partsFrom skip rest
    | 0 =>
      if c = '$' then
        match referenceAt rest with
        | some (part, length) => part :: partsFrom length rest
        | none => .plain c :: partsFrom 0 rest
      else .plain c :: partsFrom 0 rest

/-- The text that a part stands for. -/
def Part.fill (p : Program) (text : List Char) (m : Match) : Part → List Char
  | .plain c => [c]
  | .index n => covered n
  | .name s => match p.names.lookup s with
    | some n => covered n
    | none => []
where
  /-- The text that a group covers. -/
  covered (n : Nat) : List Char :=
    match m.group? n with
    | some (start, finish) => (text.drop start).take (finish - start)
    | none => []

/-- The text from an index on with each of the matches replaced. -/
def spliceFrom (p : Program) (text : List Char) (parts : List Part) (index : Nat) :
    List Match → List Char
  | [] => text.drop index
  | m :: rest =>
    (text.drop index).take (m.start - index) ++ parts.flatMap (Part.fill p text m)
      ++ spliceFrom p text parts m.finish rest

/-- The text with every match replaced. -/
def Program.replaceAll (p : Program) (text replacement : String) : String :=
  let cs := text.toList
  String.ofList (spliceFrom p cs (partsFrom 0 replacement.toList) 0 (p.allMatches cs))

end GridAudit.Pattern
