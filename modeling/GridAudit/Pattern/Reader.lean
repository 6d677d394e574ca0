import GridAudit.Number.Whole
import GridAudit.Pattern.Class

/-!
# Reading patterns

Regular expressions as text, read in one pass from left to right. The flags in force are part of
the reader's state, so each piece is read with the meaning it has; a group gives the flags back as
it found them. Whatever is not a pattern of the grammar is refused, with no reason given.

Recursion is bounded by the number of characters, of which every step takes at least one.
-/

namespace GridAudit.Pattern

/-- Skip what a spaced pattern ignores: blanks, and comments up to the end of their line. -/
def skipIgnored (inComment : Bool) : List Char → List Char
  | [] => []
  | c :: rest =>
    if inComment then skipIgnored (c ≠ '\n') rest
    else if Text.isBlank c then skipIgnored false rest
    else if c = '#' then skipIgnored true rest
    else c :: rest

/-- The text from the next character on that counts. -/
def Flags.skip (f : Flags) (cs : List Char) : List Char :=
  if f.spaced then skipIgnored false cs else cs

/-- The characters of one kind at the front, with what a spaced pattern ignores between them. -/
def Flags.word (f : Flags) (kind : Char → Bool) : Nat → List Char → List Char × List Char
  | fuel + 1, c :: rest =>
    if kind c then
      let (more, rest) := f.word kind fuel (f.skip rest)
      (c :: more, rest)
    else ([], c :: rest)
  | _, cs => ([], cs)

/-- As many characters as there are, of one kind. -/
def Flags.wordOf (f : Flags) (kind : Char → Bool) (cs : List Char) : List Char × List Char :=
  f.word kind cs.length cs

/-- Whether a character is a hexadecimal digit. -/
def isHexDigit (c : Char) : Bool := (CharSet.hexDigit? c).isSome

/-- The number that hexadecimal digits write. -/
def hexValue (cs : List Char) : Nat :=
  cs.foldl (fun n c => 16 * n + (CharSet.hexDigit? c).getD 0) 0

/-- The character with a code point, if it has one. -/
def charOfCode? (n : Nat) : Option Char := if n.isValidChar then some (Char.ofNat n) else none

/-- One atom of a pattern or of a class: a character, of which an octet is told apart that was
written by two hexadecimal digits, a set, a condition, or any character. -/
inductive Atom where
  | char (c : Char) (octet : Bool)
  | set (members : CharSet)
  | assertion (condition : Assertion)
  | dot

/-- An atom and the text after it. -/
abbrev AtomRead := Option (Atom × List Char)

/-- Read the code point after `\x`, `\u` or `\U`, which have two, four and eight digits. -/
def readHex (f : Flags) (letter : Char) (cs : List Char) : AtomRead :=
  match f.skip cs with
  | '{' :: rest =>
    match f.wordOf isHexDigit (f.skip rest) with
    | (digits, '}' :: rest) =>
      if digits.isEmpty then none
      else (charOfCode? (hexValue digits)).map fun c => (.char c false, rest)
    | _ => none
  | cs =>
    let count := if letter = 'x' then 2 else if letter = 'u' then 4 else 8
    let (digits, rest) := f.word isHexDigit count cs
    if digits.length = count then
      (charOfCode? (hexValue digits)).map fun c => (.char c (letter = 'x'), rest)
    else none

/-- Read the property after `\p` or `\P`. -/
def readProperty (f : Flags) (negated : Bool) (cs : List Char) : AtomRead := do
  let (text, rest) ← match f.skip cs with
    | [] => none
    | '{' :: rest => match f.wordOf (· ≠ '}') (f.skip rest) with
      | (text, '}' :: rest) => some (text, rest)
      | _ => none
    | '\\' :: _ => none
    | c :: rest => some ([c], rest)
  if !f.unicode then none
  else
    let (set, unequal) ← Class.ofDescription? text
    let set ← f.negate (negated != unequal) (f.fold set)
    some (.set set, rest)

/-- The kind of words that boundaries concern. -/
def Flags.wordKind (f : Flags) : WordKind := if f.unicode then .unicode else .ascii

/-- Read what may follow `\b`: the name of a special boundary in braces. Braces that cannot hold a
name are left for the repetition they begin. -/
def readBoundary (f : Flags) (cs : List Char) : AtomRead :=
  let plain : AtomRead := some (.assertion (.boundary f.wordKind), cs)
  let nameChar (c : Char) : Bool := c.isAlpha || c = '-'
  match cs with
  | '{' :: inner => match f.skip inner with
    | [] => none
    | c :: rest =>
      if !nameChar c then plain
      else match f.wordOf nameChar (c :: rest) with
        | (name, '}' :: rest) =>
          match String.ofList name with
          | "start" => some (.assertion (.wordStart f.wordKind), rest)
          | "end" => some (.assertion (.wordEnd f.wordKind), rest)
          | "start-half" => some (.assertion (.wordStartHalf f.wordKind), rest)
          | "end-half" => some (.assertion (.wordEndHalf f.wordKind), rest)
          | _ => none
        | _ => none
  | _ => plain

/-- Read what follows a backslash. -/
def readEscape (f : Flags) : List Char → AtomRead
  | [] => none
  | c :: rest =>
    match c with
    | 'x' | 'u' | 'U' => readHex f c rest
    | 'p' => readProperty f false rest
    | 'P' => readProperty f true rest
    | 'd' | 's' | 'w' => do
      let set ← Class.lettered f c
      some (.set set, rest)
    | 'D' | 'S' | 'W' => do
      let set ← Class.lettered f c.toLower
      let set ← f.negate true set
      some (.set set, rest)
    | 'a' => some (.char '\x07' false, rest)
    | 'f' => some (.char '\x0C' false, rest)
    | 't' => some (.char '\t' false, rest)
    | 'n' => some (.char '\n' false, rest)
    | 'r' => some (.char '\r' false, rest)
    | 'v' => some (.char '\x0B' false, rest)
    | 'A' => some (.assertion .start, rest)
    | 'z' => some (.assertion .finish, rest)
    | 'b' => readBoundary f rest
    | 'B' => some (.assertion (.notBoundary f.wordKind), rest)
    | '<' => some (.assertion (.wordStart f.wordKind), rest)
    | '>' => some (.assertion (.wordEnd f.wordKind), rest)
    | c => if c.toNat ≤ 0x7F && !c.isAlphanum then some (.char c false, rest) else none

/-- The ASCII class at the front, written as `[:name:]` or `[:^name:]`, after its first bracket. -/
def readPosix (cs : List Char) : Option (Bool × CharSet × List Char) :=
  match cs with
  | ':' :: rest =>
    let (negated, rest) := match rest with
      | '^' :: rest => (true, rest)
      | rest => (false, rest)
    match rest.dropWhile (· ≠ ':') with
    | ':' :: ']' :: after =>
      (Class.posix? (String.ofList (rest.takeWhile (· ≠ ':')))).map (negated, ·, after)
    | _ => none
  | _ => none

/-- The character after the next one, where a spaced pattern passes over blanks and over one mark of
a comment; the very next one when only such follow. -/
def Flags.lookBeyond (f : Flags) (cs : List Char) : Option Char :=
  if !f.spaced then cs.head?
  else
    let rest := match cs.dropWhile Text.isBlank with
      | '#' :: more => more.dropWhile Text.isBlank
      | rest => rest
    rest.head? <|> cs.head?

/-- A character that a class names, which without Unicode must be of ASCII. -/
def Flags.classChar (f : Flags) (c : Char) : Option CharSet :=
  if f.unicode || c.toNat ≤ 0x7F then some (CharSet.single c) else none

/-- Read an atom of a class. -/
def readClassAtom (f : Flags) : List Char → AtomRead
  | [] => none
  | '\\' :: rest => readEscape f rest
  | c :: rest => some (.char c false, rest)

/-- Read a character, a range or a set within a class. -/
def readClassItem (f : Flags) (cs : List Char) : Option (CharSet × List Char) := do
  let (first, rest) ← readClassAtom f cs
  let rest := f.skip rest
  let lone : Option (CharSet × List Char) := match first with
    | .char c _ => (f.classChar c).map (·, rest)
    | .set s => some (s, rest)
    | _ => none
  match rest with
  | [] => none
  | '-' :: after =>
    if f.lookBeyond after = some ']' || f.lookBeyond after = some '-' then lone
    else
      let (last, rest) ← readClassAtom f (f.skip after)
      match first, last with
      | .char a _, .char b _ =>
        if (f.classChar a).isSome && (f.classChar b).isSome && a ≤ b then
          some (CharSet.interval a.toNat b.toNat, rest)
        else none
      | _, _ => none
  | _ => lone

/-- How two sets of a class are combined. -/
inductive ClassOperator where
  | intersection
  | difference
  | symmetricDifference

/-- The combination of two sets. -/
def ClassOperator.apply : ClassOperator → CharSet → CharSet → CharSet
  | .intersection => CharSet.inter
  | .difference => CharSet.diff
  | .symmetricDifference => CharSet.symmDiff

/-- A class being read: what stands before the last operator, the sets since then with their number,
and how deeply both are nested. -/
structure ClassState where
  before : Option (CharSet × ClassOperator)
  members : CharSet
  count : Nat
  depthBefore : Nat
  depth : Nat

/-- A class of which nothing has been read. -/
def ClassState.initial : ClassState := ⟨none, .empty, 0, 0, 0⟩

/-- A further set within a class. -/
def ClassState.add (s : ClassState) (members : CharSet) (depth : Nat) : ClassState :=
  { s with members := s.members.union members, count := s.count + 1, depth := max s.depth depth }

/-- The depth of the sets since the last operator. -/
def ClassState.unionDepth (s : ClassState) : Nat := if s.count ≤ 1 then s.depth else s.depth + 1

/-- The set read so far, with its depth. -/
def ClassState.result (f : Flags) (s : ClassState) : CharSet × Nat :=
  match s.before with
  | none => (s.members, s.unionDepth)
  | some (left, op) =>
    (op.apply (f.fold left) (f.fold s.members), max s.depthBefore s.unionDepth + 1)

/-- The class after an operator. -/
def ClassState.operator (f : Flags) (s : ClassState) (op : ClassOperator) : ClassState :=
  let (left, depth) := s.result f
  ⟨some (left, op), .empty, 0, depth, 0⟩

/-- Read the hyphens a class may start with, each of which stands for itself. -/
def readHyphens (f : Flags) : Nat → ClassState → List Char → ClassState × List Char
  | fuel + 1, s, '-' :: rest => readHyphens f fuel (s.add (CharSet.single '-') 0) (f.skip rest)
  | _, s, cs => (s, cs)

/-- Read the opening of a class after its bracket: whether it is negated, and the hyphens and the
closing bracket that stand for themselves there. -/
def openClass (f : Flags) (cs : List Char) : Option (Bool × ClassState × List Char) :=
  let (negated, cs) := match f.skip cs with
    | '^' :: rest => (true, f.skip rest)
    | cs => (false, cs)
  let (s, cs) := readHyphens f cs.length .initial cs
  let (s, cs) := match cs with
    | ']' :: rest => if s.count = 0 then (s.add (CharSet.single ']') 0, f.skip rest) else (s, cs)
    | cs => (s, cs)
  if cs.isEmpty then none else some (negated, s, cs)

/-- Read a class up to its closing bracket, with its depth. -/
def readClass (f : Flags) (negated : Bool) :
    Nat → ClassState → List Char → Option (CharSet × Nat × List Char)
  | 0, _, _ => none
  | fuel + 1, s, cs =>
    match f.skip cs with
    | [] => none
    | ']' :: rest =>
      let (members, depth) := s.result f
      (f.negate negated (f.fold members)).map fun set => (set, depth + 1, rest)
    | '[' :: rest =>
      match readPosix rest with
      | some (negatedName, members, rest) => do
        let members ← f.negate negatedName (f.fold members)
        readClass f negated fuel (s.add members 0) rest
      | none => do
        let (negatedInner, inner, rest) ← openClass f rest
        let (members, depth, rest) ← readClass f negatedInner fuel inner rest
        readClass f negated fuel (s.add members depth) rest
    | '&' :: '&' :: rest => readClass f negated fuel (s.operator f .intersection) rest
    | '-' :: '-' :: rest => readClass f negated fuel (s.operator f .difference) rest
    | '~' :: '~' :: rest => readClass f negated fuel (s.operator f .symmetricDifference) rest
    | cs => do
      let (members, rest) ← readClassItem f cs
      readClass f negated fuel (s.add members 0) rest

/-- The flag of a letter, switched on or off. -/
def Flags.switch (f : Flags) (letter : Char) (on : Bool) : Option Flags :=
  match letter with
  | 'i' => some { f with caseless := on }
  | 'm' => some { f with multiline := on }
  | 's' => some { f with dotAll := on }
  | 'U' => some { f with swapGreed := on }
  | 'u' => some { f with unicode := on }
  | 'x' => some { f with spaced := on }
  | 'R' => some { f with crlf := on }
  | _ => none

/-- Read flags up to a colon or a closing parenthesis, each letter and the hyphen at most once, the
flags after the hyphen being switched off. The last of the results tells whether any stood there. -/
def readFlags (f : Flags) (seen : List Char) (on : Bool) :
    List Char → Option (Flags × Char × List Char × Bool)
  | [] => none
  | c :: rest =>
    if c = ':' ∨ c = ')' then
      if seen.head? = some '-' then none else some (f, c, rest, !seen.isEmpty)
    else if seen.contains c then none
    else if c = '-' then readFlags f (c :: seen) false rest
    else match f.switch c on with
      | some f => readFlags f (c :: seen) on rest
      | none => none

/-- Read a decimal number of 32 bits among blanks; the number is absent when there is no digit. -/
def readCount (f : Flags) (cs : List Char) : Option (Option Nat × List Char) :=
  let (digits, rest) := f.wordOf (fun c => (Number.digit? c).isSome) (cs.dropWhile Text.isBlank)
  let rest := f.skip (rest.dropWhile Text.isBlank)
  match Number.natural? digits with
  | none => some (none, rest)
  | some n => if n < 0x100000000 then some (some n, rest) else none

/-- Read the bounds of a counted repetition after its opening brace. -/
def readBounds (f : Flags) (cs : List Char) : Option (Nat × Option Nat × List Char) := do
  let (least, rest) ← readCount f (f.skip cs)
  match rest with
  | ',' :: rest =>
    match f.skip rest with
    | '}' :: rest => do
      let least ← least
      some (least, none, rest)
    | rest => do
      let least ← least
      let (greatest, rest) ← readCount f rest
      let greatest ← greatest
      match rest with
      | '}' :: rest => if least ≤ greatest then some (least, some greatest, rest) else none
      | _ => none
  | '}' :: rest => do
    let least ← least
    some (least, some least, rest)
  | _ => none

/-- A piece of a sequence: a shape with its depth, or flags that were switched. -/
inductive Piece where
  | shape (s : Shape) (depth : Nat)
  | switch

/-- A body being read: the finished branches and the pieces of the current one, both in reverse. -/
structure Body where
  branches : List (Shape × Nat)
  pieces : List Piece

/-- A body of which nothing has been read. -/
def Body.initial : Body := ⟨[], []⟩

/-- A further piece. -/
def Body.push (b : Body) (s : Shape) (depth : Nat) : Body :=
  { b with pieces := .shape s depth :: b.pieces }

/-- The shape and depth of the current branch. -/
def Body.branch (b : Body) : Shape × Nat :=
  let depths := b.pieces.map fun
    | .shape _ depth => depth
    | .switch => 0
  let depth := depths.foldl max 0 + if b.pieces.length ≤ 1 then 0 else 1
  (Shape.sequenceOf (b.pieces.reverse.filterMap fun
    | .shape s _ => some s
    | .switch => none), depth)

/-- The body after a bar. -/
def Body.bar (b : Body) : Body := ⟨b.branch :: b.branches, []⟩

/-- The shape and depth of the whole body. -/
def Body.finish (b : Body) : Shape × Nat :=
  match b.branches with
  | [] => b.branch
  | branches =>
    let all := (b.branch :: branches).reverse
    (Shape.choiceOf (all.map Prod.fst), (all.map Prod.snd).foldl max 0 + 1)

/-- What the whole of a pattern shares: the flags in force, the number of groups and their names. -/
structure Scope where
  flags : Flags
  groups : Nat
  names : List (String × Nat)

/-- Letters, digits and numbers of any script. -/
def alphanumeric : CharSet := Text.Property.alphabetic.union Text.Category.number

/-- Whether a character may stand in the name of a group; the first has fewer choices. -/
def isNameChar (first : Bool) (c : Char) : Bool :=
  if first then c = '_' || Text.Property.alphabetic.contains c
  else c = '_' || c = '.' || c = '[' || c = ']' || alphanumeric.contains c

/-- Read the name of a group up to its closing angle. -/
def readName (cs : List Char) : Option (String × List Char) :=
  match cs.takeWhile (· ≠ '>'), cs.dropWhile (· ≠ '>') with
  | first :: more, _ :: rest =>
    if isNameChar true first && more.all (isNameChar false) then
      some (String.ofList (first :: more), rest)
    else none
  | _, _ => none

/-- What an opening parenthesis begins. -/
inductive Opening where
  /-- Flags for the rest of the group around. -/
  | switch (scope : Scope)
  /-- A group, which captures what it matches when it has an index. -/
  | group (index : Option Nat) (scope : Scope)

/-- The opening of a group that captures, under a name or not. -/
def Scope.capture (s : Scope) (name : Option String) : Option Opening :=
  let index := s.groups + 1
  match name with
  | none => some (.group (some index) { s with groups := index })
  | some name =>
    if s.names.any (·.1 = name) then none
    else some (.group (some index) { s with groups := index, names := s.names ++ [(name, index)] })

/-- Read what follows an opening parenthesis up to the start of the group's body. Groups that look
around are refused. -/
def readOpening (s : Scope) (cs : List Char) : Option (Opening × List Char) :=
  match s.flags.skip cs with
  | '?' :: '=' :: _ | '?' :: '!' :: _ | '?' :: '<' :: '=' :: _ | '?' :: '<' :: '!' :: _ => none
  | '?' :: 'P' :: '<' :: rest | '?' :: '<' :: rest => do
    let (name, rest) ← readName rest
    let opening ← s.capture (some name)
    some (opening, rest)
  | '?' :: rest => do
    let (flags, close, rest, any) ← readFlags s.flags [] true rest
    if close = ')' then
      if any then some (.switch { s with flags }, rest) else none
    else some (.group none { s with flags }, rest)
  | rest => (s.capture none).map (·, rest)

/-- The shape of an atom outside classes. -/
def Atom.shape (f : Flags) : Atom → Option Shape
  | .char c octet =>
    if !f.unicode && octet && 0x7F < c.toNat then none
    else if !f.unicode && 0x7F < c.toNat then some (.set (CharSet.single c))
    else some (.set (f.fold (CharSet.single c)))
  | .set members => some (.set members)
  | .assertion condition => some (.assertion condition)
  | .dot =>
    if !f.unicode then none
    else if f.dotAll then some (.set .full)
    else if f.crlf then some (.set (CharSet.mk [(0xA, 0xA), (0xD, 0xD)]).complement)
    else some (.set (CharSet.single '\n').complement)

/-- Read an atom outside classes, apart from brackets, parentheses, bars and repetitions. -/
def readAtom (f : Flags) : List Char → AtomRead
  | [] => none
  | '\\' :: rest => readEscape f rest
  | '.' :: rest => some (.dot, rest)
  | '^' :: rest =>
    some (.assertion
      (if f.multiline then if f.crlf then .crlfStart else .lineStart else .start), rest)
  | '$' :: rest =>
    some (.assertion (if f.multiline then if f.crlf then .crlfEnd else .lineEnd else .finish), rest)
  | c :: rest => some (.char c false, rest)

/-- The body with its last piece repeated. Flags alone are nothing to repeat. -/
def Body.repeatLast (b : Body) (f : Flags) (least : Nat) (greatest : Option Nat) (lazy : Bool) :
    Option Body :=
  match b.pieces with
  | .shape s depth :: pieces =>
    let repeated := Shape.repeated least greatest (lazy == f.swapGreed) s
    some { b with pieces := .shape repeated (depth + 1) :: pieces }
  | _ => none

/-- Read the question mark that makes a repetition prefer fewer. -/
def readLazy : List Char → Bool × List Char
  | '?' :: rest => (true, rest)
  | rest => (false, rest)

/-- Read a body up to the end or to a closing parenthesis, which is left in place. -/
def readBody : Nat → Scope → Body → List Char → Option (Shape × Nat × Scope × List Char)
  | 0, _, _, _ => none
  | fuel + 1, s, b, cs =>
    match s.flags.skip cs with
    | [] =>
      let (shape, depth) := b.finish
      some (shape, depth, s, [])
    | ')' :: rest =>
      let (shape, depth) := b.finish
      some (shape, depth, s, ')' :: rest)
    | '|' :: rest => readBody fuel s b.bar rest
    | '(' :: rest => do
      let (opening, rest) ← readOpening s rest
      match opening with
      | .switch s => readBody fuel s { b with pieces := .switch :: b.pieces } rest
      | .group index inner =>
        let (shape, depth, inner, rest) ← readBody fuel inner .initial rest
        let shape := match index with
          | some i => .group i shape
          | none => shape
        match rest with
        | ')' :: rest =>
          readBody fuel { inner with flags := s.flags } (b.push shape (depth + 1)) rest
        | _ => none
    | '[' :: rest => do
      let (negated, state, rest) ← openClass s.flags rest
      let (members, depth, rest) ← readClass s.flags negated rest.length state rest
      readBody fuel s (b.push (.set members) depth) rest
    | '{' :: rest => do
      let (least, greatest, rest) ← readBounds s.flags rest
      let (lazy, rest) := readLazy (s.flags.skip rest)
      let b ← b.repeatLast s.flags least greatest lazy
      readBody fuel s b rest
    | '?' :: rest => do
      let (lazy, rest) := readLazy rest
      let b ← b.repeatLast s.flags 0 (some 1) lazy
      readBody fuel s b rest
    | '*' :: rest => do
      let (lazy, rest) := readLazy rest
      let b ← b.repeatLast s.flags 0 none lazy
      readBody fuel s b rest
    | '+' :: rest => do
      let (lazy, rest) := readLazy rest
      let b ← b.repeatLast s.flags 1 none lazy
      readBody fuel s b rest
    | cs => do
      let (atom, rest) ← readAtom s.flags cs
      let shape ← atom.shape s.flags
      readBody fuel s (b.push shape 0) rest

/-- A pattern read: its shape and the names of its groups. -/
structure Source where
  shape : Shape
  names : List (String × Nat)

/-- The greatest depth to which the parts of a pattern may be nested. -/
def depthLimit : Nat := 250

/-- Read a pattern, if the text is one. -/
def Source.parse? (text : String) : Option Source := do
  let cs := text.toList
  let (shape, depth, scope, rest) ← readBody (cs.length + 1) ⟨.initial, 0, []⟩ .initial cs
  if rest.isEmpty && depth ≤ depthLimit && shape.size ≤ Shape.sizeLimit then
    some ⟨shape, scope.names⟩
  else none

end GridAudit.Pattern
