import GridAudit.Json.Basic

/-!
# Printing JSON

Values without blanks between their parts. In strings only what must be escaped is: quotes,
backslashes and control characters, the usual ones of them by a letter.
-/

namespace GridAudit

/-- A number as it is written. -/
def JsonNumber.print (n : JsonNumber) : List Char :=
  (if n.negative then ['-'] else []) ++ n.whole
    ++ (if n.fraction.isEmpty then [] else '.' :: n.fraction)
    ++ (if n.exponent.isEmpty then [] else 'e' :: n.exponent)

namespace Json

/-- A hexadecimal digit of a number below 16. -/
def hexDigit (n : Nat) : Char := Nat.digitChar n

/-- A character as it stands in a string. -/
def escapeChar (c : Char) : List Char :=
  if c = '"' then ['\\', '"']
  else if c = '\\' then ['\\', '\\']
  else if c = '\x08' then ['\\', 'b']
  else if c = '\x0c' then ['\\', 'f']
  else if c = '\n' then ['\\', 'n']
  else if c = '\r' then ['\\', 'r']
  else if c = '\t' then ['\\', 't']
  else if c.toNat < 0x20 then
    ['\\', 'u', '0', '0', hexDigit (c.toNat / 16), hexDigit (c.toNat % 16)]
  else [c]

/-- A string in quotes. -/
def printString (s : String) : List Char := '"' :: s.toList.flatMap escapeChar ++ ['"']

mutual

/-- The characters of a value. -/
def printChars : Json → List Char
  | .null => ['n', 'u', 'l', 'l']
  | .bool true => ['t', 'r', 'u', 'e']
  | .bool false => ['f', 'a', 'l', 's', 'e']
  | .number n => n.print
  | .string s => printString (s.getD "")
  | .array items => '[' :: printItems items ++ [']']
  | .object members => '{' :: printMembers members ++ ['}']
  | .absent => []
  | .torn part _ => part.printChars

/-- Values with commas between them. -/
def printItems : List Json → List Char
  | [] => []
  | [j] => j.printChars
  | j :: rest => j.printChars ++ ',' :: printItems rest

/-- Keys and values with commas between them. -/
def printMembers : List (Json × Json) → List Char
  | [] => []
  | [(key, j)] => key.printChars ++ ':' :: j.printChars
  | (key, j) :: rest => key.printChars ++ ':' :: j.printChars ++ ',' :: printMembers rest

end

/-- The text of a value. -/
def print (j : Json) : String := String.ofList j.printChars

end Json

end GridAudit
