import GridAudit.Json.Basic
import GridAudit.Text.CharSet

/-!
# Reading JSON

A text is read from left to right, up to its end or to the first thing wrong with it. Each reader
answers with what it read and the text after it, or with what there is up to the fault. Recursion is
bounded by the number of characters, of which every step takes at least one.
-/

namespace GridAudit

/-- What comes of reading a text: something whole with the text after it, or what there is of it
where the text ends too early or is no JSON. -/
inductive Reading (α : Type) where
  | whole (value : α) (rest : List Char)
  | torn (part : α) (fault : JsonFault)

namespace Reading

/-- Change what was read. -/
def map {α β : Type} (f : α → β) : Reading α → Reading β
  | .whole value rest => .whole (f value) rest
  | .torn part fault => .torn (f part) fault

/-- A reading of which nothing but a given part remains when it fails. -/
def ofExcept {α : Type} (part : α) : Except JsonFault (α × List Char) → Reading α
  | .ok (value, rest) => .whole value rest
  | .error fault => .torn part fault

/-- The value that was read, which is torn when the text breaks off. -/
def value : Reading Json → Json
  | .whole j _ => j
  | .torn part fault => .torn part fault

end Reading

namespace Json

/-- Whether a character may stand between the parts of a value. -/
def isSpace (c : Char) : Bool := c = ' ' || c = '\n' || c = '\t' || c = '\r'

/-- The text from the next character on that counts. -/
def skipSpace (cs : List Char) : List Char := cs.dropWhile isSpace

/-- The number of octets in the first characters, as far as four of them. -/
def octets (cs : List Char) : Nat := (cs.take 4).foldl (fun n c => n + c.utf8Size) 0

/-- Read the four digits of an escaped code unit. -/
def readUnit (cs : List Char) : Except JsonFault (Nat × List Char) :=
  if octets cs < 4 then .error .truncated
  else match (cs.take 4).mapM CharSet.hexDigit? with
    | some [a, b, c, d] => .ok (((a * 16 + b) * 16 + c) * 16 + d, cs.drop 4)
    | _ => .error .malformed

/-- Read the code after a backslash. -/
def readEscape : List Char → Except JsonFault (Nat × List Char)
  | [] => .error .truncated
  | '"' :: rest => .ok (0x22, rest)
  | '\\' :: rest => .ok (0x5C, rest)
  | '/' :: rest => .ok (0x2F, rest)
  | 'b' :: rest => .ok (0x8, rest)
  | 'f' :: rest => .ok (0xC, rest)
  | 'n' :: rest => .ok (0xA, rest)
  | 'r' :: rest => .ok (0xD, rest)
  | 't' :: rest => .ok (0x9, rest)
  | 'u' :: rest => readUnit rest
  | _ => .error .malformed

/-- Read the codes of a string up to its closing quote; every escaped surrogate is its own code. -/
def readCodes : Nat → List Char → Reading (List Nat)
  | 0, _ => .torn [] .truncated
  | _ + 1, [] => .torn [] .truncated
  | fuel + 1, c :: rest =>
    if c = '"' then .whole [] rest
    else if c = '\\' then
      match readEscape rest with
      | .ok (code, rest) => (readCodes fuel rest).map (code :: ·)
      | .error fault => .torn [] fault
    else if c.toNat < 0x20 then .torn [] .malformed
    else (readCodes fuel rest).map (c.toNat :: ·)

/-- Join pairs of surrogates; a surrogate that stands alone makes no text. -/
def joinSurrogates : List Nat → Option (List Char)
  | [] => some []
  | high :: low :: rest =>
    if 0xD800 ≤ high ∧ high ≤ 0xDBFF then
      if 0xDC00 ≤ low ∧ low ≤ 0xDFFF then
        (joinSurrogates rest).map
          (Char.ofNat (0x10000 + (high - 0xD800) * 0x400 + (low - 0xDC00)) :: ·)
      else none
    else if 0xDC00 ≤ high ∧ high ≤ 0xDFFF then none
    else (joinSurrogates (low :: rest)).map (Char.ofNat high :: ·)
  | [code] => if 0xD800 ≤ code ∧ code ≤ 0xDFFF then none else some [Char.ofNat code]

/-- The codes of a torn string that count: a leading surrogate at its end may yet find its pair. -/
def settledCodes (codes : List Nat) : List Nat :=
  if codes.getLast?.any fun code => 0xD800 ≤ code ∧ code ≤ 0xDBFF then codes.dropLast else codes

/-- Read a string after its opening quote. -/
def readString (cs : List Char) : Reading (Option String) :=
  match readCodes (cs.length + 1) cs with
  | .whole codes rest => .whole ((joinSurrogates codes).map String.ofList) rest
  | .torn codes fault => .torn ((joinSurrogates (settledCodes codes)).map String.ofList) fault

/-- Whether a character is a digit. -/
def isDigit (c : Char) : Bool := (Number.digit? c).isSome

/-- Read one or more digits. -/
def readDigits (cs : List Char) : Except JsonFault (List Char × List Char) :=
  match cs with
  | [] => .error .truncated
  | c :: _ =>
    if isDigit c then .ok (cs.takeWhile isDigit, cs.dropWhile isDigit) else .error .malformed

/-- Read a number without its sign. No digit may follow a leading zero. -/
def readNumber (negative : Bool) (cs : List Char) : Except JsonFault (Json × List Char) := do
  let (whole, rest) ← readDigits cs
  if whole.head? = some '0' && 1 < whole.length then .error .malformed
  else
    let (fraction, rest) ← match rest with
      | '.' :: rest => readDigits rest
      | rest => .ok ([], rest)
    let (exponent, rest) ← match rest with
      | 'e' :: rest | 'E' :: rest =>
        match rest with
        | '+' :: rest => (readDigits rest).map fun (ds, rest) => ('+' :: ds, rest)
        | '-' :: rest => (readDigits rest).map fun (ds, rest) => ('-' :: ds, rest)
        | rest => readDigits rest
      | rest => .ok ([], rest)
    return (.number ⟨negative, whole, fraction, exponent⟩, rest)

/-- Read the rest of a word. -/
def readWord (value : Json) : List Char → List Char → Except JsonFault (Json × List Char)
  | [], rest => .ok (value, rest)
  | _ :: _, [] => .error .truncated
  | c :: more, d :: rest => if c = d then readWord value more rest else .error .malformed

mutual

/-- Read a value. -/
def readValue : Nat → List Char → Reading Json
  | 0, _ => .torn .absent .truncated
  | fuel + 1, cs =>
    match skipSpace cs with
    | [] => .torn .absent .truncated
    | 'n' :: rest => .ofExcept .null (readWord .null ['u', 'l', 'l'] rest)
    | 't' :: rest => .ofExcept .null (readWord (.bool true) ['r', 'u', 'e'] rest)
    | 'f' :: rest => .ofExcept .null (readWord (.bool false) ['a', 'l', 's', 'e'] rest)
    | '"' :: rest => (readString rest).map .string
    | '[' :: rest =>
      match skipSpace rest with
      | [] => .torn (.array []) .truncated
      | ']' :: rest => .whole (.array []) rest
      | rest => (readItems fuel rest).map .array
    | '{' :: rest =>
      match skipSpace rest with
      | [] => .torn (.object []) .truncated
      | '}' :: rest => .whole (.object []) rest
      | rest => (readMembers fuel rest).map .object
    | '-' :: rest => .ofExcept .null (readNumber true rest)
    | c :: rest =>
      if isDigit c then .ofExcept .null (readNumber false (c :: rest))
      else .torn .absent .malformed

/-- Read the items of an array, of which there is at least one, and its closing bracket. -/
def readItems : Nat → List Char → Reading (List Json)
  | 0, _ => .torn [] .truncated
  | fuel + 1, cs =>
    match readValue fuel cs with
    | .torn part fault => .torn [.torn part fault] fault
    | .whole item rest =>
      match skipSpace rest with
      | [] => .torn [item] .truncated
      | ']' :: rest => .whole [item] rest
      | ',' :: rest => (readItems fuel rest).map (item :: ·)
      | _ => .torn [item] .malformed

/-- Read the members of an object, of which there is at least one, and its closing brace. -/
def readMembers : Nat → List Char → Reading (List (Json × Json))
  | 0, _ => .torn [] .truncated
  | fuel + 1, cs =>
    match skipSpace cs with
    | [] => .torn [(.torn .absent .truncated, .absent)] .truncated
    | '"' :: rest =>
      match readString rest with
      | .torn key fault => .torn [(.torn (.string key) fault, .absent)] fault
      | .whole key rest =>
        match skipSpace rest with
        | [] => .torn [(.string key, .torn .absent .truncated)] .truncated
        | ':' :: rest =>
          match readValue fuel rest with
          | .torn part fault => .torn [(.string key, .torn part fault)] fault
          | .whole value rest =>
            match skipSpace rest with
            | [] => .torn [(.string key, value)] .truncated
            | '}' :: rest => .whole [(.string key, value)] rest
            | ',' :: rest => (readMembers fuel rest).map ((.string key, value) :: ·)
            | _ => .torn [(.string key, value)] .malformed
        | _ => .torn [(.string key, .torn .absent .malformed)] .malformed
    -- what stands here is no key, but whoever asks for another value looks at it first
    | cs => .torn [((readValue fuel cs).value, .absent)] .malformed

end

/-- Decode a text that holds one value and nothing else. -/
def decodeText {α : Type} (decode : Json → Except JsonFault α) (s : String) :
    Except JsonFault α := do
  let cs := s.toList
  match readValue (cs.length + 1) cs with
  | .torn part fault => do
    let _ ← decode (.torn part fault)
    .error fault
  | .whole j rest => do
    let a ← decode j
    if (skipSpace rest).isEmpty then return a else .error .malformed

end Json

end GridAudit
