import GridAudit.Pattern.Shape
import GridAudit.Text.Age
import GridAudit.Text.Case
import GridAudit.Text.Segment

/-!
# Named classes of characters

The classes a pattern names: digits, blanks and words by a letter, the ASCII classes by their name
within brackets, and the properties of the Unicode standard by name or by name and value. Names of
properties are read without regard to case, blanks, hyphens and underscores.
-/

namespace GridAudit.Pattern

/-- Flags that change the meaning of what follows them in their group. -/
structure Flags where
  caseless : Bool
  multiline : Bool
  dotAll : Bool
  swapGreed : Bool
  unicode : Bool
  spaced : Bool
  crlf : Bool

/-- The flags a pattern starts with. -/
def Flags.initial : Flags := ⟨false, false, false, false, true, false, false⟩

/-- The characters as an ASCII or Unicode set is closed under case, when case is disregarded. -/
def Flags.fold (f : Flags) (s : CharSet) : CharSet :=
  if f.caseless then (if f.unicode then Text.Fold.close s else Text.Fold.closeAscii s) else s

/-- The complement of a set. Without Unicode it is taken among octets, and a set that reaches
beyond ASCII is refused because it would match parts of characters. -/
def Flags.negate (f : Flags) (negated : Bool) (s : CharSet) : Option CharSet :=
  if f.unicode then some (if negated then s.complement else s)
  else
    let s := if negated then s.complementUpTo 0xFF else s
    if s.atMost 0x7F then some s else none

namespace Class

/-- The class of `\d`, `\s` or `\w`. -/
def lettered (f : Flags) (letter : Char) : Option CharSet :=
  if f.unicode then match letter with
    | 'd' => some Text.Category.decimalNumber
    | 's' => some Text.blanks
    | 'w' => some Text.Property.word
    | _ => none
  else match letter with
    | 'd' => some ⟨[(0x30, 0x39)]⟩
    | 's' => some ⟨[(0x9, 0xD), (0x20, 0x20)]⟩
    | 'w' => some asciiWord
    | _ => none

/-- The ASCII class of a name. -/
def posix? (name : String) : Option CharSet :=
  [("alnum", [(0x30, 0x39), (0x41, 0x5A), (0x61, 0x7A)]), ("alpha", [(0x41, 0x5A), (0x61, 0x7A)]),
    ("ascii", [(0x0, 0x7F)]), ("blank", [(0x9, 0x9), (0x20, 0x20)]),
    ("cntrl", [(0x0, 0x1F), (0x7F, 0x7F)]), ("digit", [(0x30, 0x39)]), ("graph", [(0x21, 0x7E)]),
    ("lower", [(0x61, 0x7A)]), ("print", [(0x20, 0x7E)]),
    ("punct", [(0x21, 0x2F), (0x3A, 0x40), (0x5B, 0x60), (0x7B, 0x7E)]),
    ("space", [(0x9, 0xD), (0x20, 0x20)]), ("upper", [(0x41, 0x5A)]),
    ("word", [(0x30, 0x39), (0x41, 0x5A), (0x5F, 0x5F), (0x61, 0x7A)]),
    ("xdigit", [(0x30, 0x39), (0x41, 0x46), (0x61, 0x66)])].lookup name |>.map CharSet.mk

/-- A name without blanks, hyphens, underscores and characters beyond ASCII, in lower case. -/
def plainName (name : List Char) : List Char :=
  name.filterMap fun c =>
    if c = ' ' ∨ c = '_' ∨ c = '-' ∨ 0x7F < c.toNat then none else some c.toLower

/-- The key of a name: its plain form without a leading `is`. The name `isc` is kept whole, since
without those letters it would be that of a category. -/
def nameKey : List Char → List Char
  | a :: b :: rest =>
    if a.toLower = 'i' ∧ b.toLower = 's' then
      if plainName rest = ['c'] then ['i', 's', 'c'] else plainName rest
    else plainName (a :: b :: rest)
  | short => plainName short

/-- The set among named ones with a name of the given key. -/
def findNamed (key : List Char) (sets : List (List String × CharSet)) : Option CharSet :=
  (sets.find? fun s => s.1.any fun n => plainName n.toList = key).map Prod.snd

/-- The script with a name of the given key. -/
def findScript (key : List Char) : Option Text.Script :=
  Text.Script.scripts.find? fun s => s.names.any fun n => plainName n.toList = key

/-- The set of a lone name: a binary property, a general category or a script. Binary properties
take no value. -/
def ofName? (name : List Char) : Option CharSet :=
  let key := nameKey name
  findNamed key Text.Property.named
    <|> findNamed key Text.Case.named
    <|> findNamed key Text.Category.named
    <|> (findScript key).map Text.Script.own

/-- The set of a property with a value: a category, a script, an age, or what a character is to the
breaks between characters, words and sentences. -/
def ofValue? (property value : List Char) : Option CharSet :=
  let key := String.ofList (nameKey property)
  if key = "gc" ∨ key = "generalcategory" then findNamed (nameKey value) Text.Category.named
  else if key = "sc" ∨ key = "script" then (findScript (nameKey value)).map Text.Script.own
  else if key = "scx" ∨ key = "scriptextensions" then
    (findScript (nameKey value)).map Text.Script.extended
  else if key = "age" then findNamed (nameKey value) Text.Age.ages
  else if key = "gcb" ∨ key = "graphemeclusterbreak" then
    findNamed (nameKey value) Text.Segment.characterBreaks
  else if key = "wb" ∨ key = "wordbreak" then findNamed (nameKey value) Text.Segment.wordBreaks
  else if key = "sb" ∨ key = "sentencebreak" then
    findNamed (nameKey value) Text.Segment.sentenceBreaks
  else none

/-- Cut a list at the first occurrence of a mark. -/
def cutAt (mark : List Char) : List Char → Option (List Char × List Char)
  | [] => if mark.isEmpty then some ([], []) else none
  | c :: rest =>
    if mark.isPrefixOf (c :: rest) then some ([], (c :: rest).drop mark.length)
    else (cutAt mark rest).map fun parts => (c :: parts.1, parts.2)

/-- The set that the text between the braces of `\p` names; the flag tells of a written `!=`. -/
def ofDescription? (text : List Char) : Option (CharSet × Bool) :=
  match cutAt ['!', '='] text with
  | some (property, value) => (ofValue? property value).map (·, true)
  | none => match (cutAt [':'] text) <|> (cutAt ['='] text) with
    | some (property, value) => (ofValue? property value).map (·, false)
    | none => (ofName? text).map (·, false)

end Class

end GridAudit.Pattern
