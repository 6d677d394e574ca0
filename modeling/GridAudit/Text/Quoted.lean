import GridAudit.Text.Property

/-!
# Quoted text

A text between double quotes, with every character that would not show plainly written as an
escape. Combining marks are escaped, since they would join the character before them; a single
quote stands for itself.
-/

namespace GridAudit.Text

/-- Characters that do not show: controls, format and private characters, code points without a
character, and every separator but the space. -/
def unprintable : CharSet :=
  CharSet.unions [Category.other, Category.separator.diff (CharSet.single ' ')]

/-- Characters written by their number. -/
def numbered : CharSet := unprintable.union Property.graphemeExtend

/-- A number in lower-case hexadecimal without leading zeros. -/
def hexDigits (n : Nat) : List Char := Nat.toDigits 16 n

/-- A character as it stands in quoted text. -/
def escapeChar (c : Char) : List Char :=
  if c = '\x00' then ['\\', '0']
  else if c = '\t' then ['\\', 't']
  else if c = '\n' then ['\\', 'n']
  else if c = '\r' then ['\\', 'r']
  else if c = '"' then ['\\', '"']
  else if c = '\\' then ['\\', '\\']
  else if numbered.contains c then ['\\', 'u', '{'] ++ hexDigits c.toNat ++ ['}']
  else [c]

/-- A text in quotes. -/
def quote (s : String) : String :=
  String.ofList (['"'] ++ s.toList.flatMap escapeChar ++ ['"'])

end GridAudit.Text
