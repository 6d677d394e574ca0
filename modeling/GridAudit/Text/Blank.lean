import GridAudit.Text.CharSet

/-!
# Blank characters

The characters that surround a text without belonging to it, which are those with the property
`White_Space` in the Unicode standard, and the text without them at either end.
-/

namespace GridAudit.Text

/-- The blank characters. -/
def blanks : CharSet :=
  ⟨[(0x9, 0xD), (0x20, 0x20), (0x85, 0x85), (0xA0, 0xA0), (0x1680, 0x1680), (0x2000, 0x200A),
    (0x2028, 0x2029), (0x202F, 0x202F), (0x205F, 0x205F), (0x3000, 0x3000)]⟩

/-- Whether a character is blank. -/
def isBlank (c : Char) : Bool := blanks.contains c

/-- A list of characters without the blank ones at either end. -/
def trimChars (cs : List Char) : List Char :=
  ((cs.dropWhile isBlank).reverse.dropWhile isBlank).reverse

/-- A text without the blank characters at either end. -/
def trim (s : String) : String := String.ofList (trimChars s.toList)

/-- Whether a text has no character but blank ones. -/
def isBlankText (s : String) : Bool := s.toList.all isBlank

end GridAudit.Text
