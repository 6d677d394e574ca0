import GridAudit.Text.Property
import GridAudit.Text.Script

/-!
# Breaks in texts

What a character is to the breaks between the characters a reader sees, between words and between
sentences, as in version 16 of the Unicode standard. The standard derives these values from
categories, properties and scripts, with a few characters more or less. The value of all remaining
characters is left out.
-/

namespace GridAudit.Text.Segment

open Category Property

/-- The characters that a script owns. -/
def ofScript (name : String) : CharSet :=
  ((Script.scripts.find? fun s => s.names.contains name).map Script.own).getD .empty

/-! ## Characters as a reader sees them -/

/-- Characters that extend the one before them. -/
def extend : CharSet := graphemeExtend.union emojiModifier

/-- Characters that stand alone, like controls. -/
def standalone : CharSet :=
  (CharSet.unions [lineSeparator, paragraphSeparator, control, format,
    unassigned.inter defaultIgnorable]).diff
    (CharSet.unions [CharSet.ofText "A D 200C-200D", prependedConcatenation, extend])

/-- Characters that join the one after them. -/
def prepend : CharSet := prependedConcatenation.union (CharSet.ofText
    "D4E 111C2-111C3 113D1 1193F 11941 11A3A 11A84-11A89 11D46 11F02")

/-- Characters that take space and yet join the one before them. -/
def spacing : CharSet :=
  (spacingMark.union (CharSet.ofText "E33 EB3")).diff (graphemeExtend.union (CharSet.ofText
    "102B-102C 1038 1062-1064 1067-106D 1083 1087-108C 108F 109A-109C 1A61 1A63-1A64 AA7B AA7D
    11720-11721"))

/-- Hangul syllables. -/
def hangulSyllable : CharSet := CharSet.interval 0xAC00 0xD7A3

/-- Hangul syllables without a final consonant, which are every twenty-eighth. -/
def openSyllable : CharSet :=
  ⟨(List.range 399).map fun i => (0xAC00 + 28 * i, 0xAC00 + 28 * i)⟩

/-- The values of characters as a reader sees them, the short name first. -/
def characterBreaks : List (List String × CharSet) := [
  (["CR"], CharSet.single '\r'),
  (["LF"], CharSet.single '\n'),
  (["CN", "Control"], standalone),
  (["EX", "Extend"], extend),
  (["PP", "Prepend"], prepend),
  (["SM", "SpacingMark"], spacing),
  (["L"], CharSet.ofText "1100-115F A960-A97C"),
  (["V"], CharSet.ofText "1160-11A7 D7B0-D7C6 16D63 16D67-16D6A"),
  (["T"], CharSet.ofText "11A8-11FF D7CB-D7FB"),
  (["LV"], openSyllable),
  (["LVT"], hangulSyllable.diff openSyllable),
  (["RI", "Regional_Indicator"], regionalIndicator),
  (["ZWJ"], CharSet.ofText "200D")]

/-! ## Words -/

/-- Characters of numbers: digits, the Arabic decimal separator and marks that span a number. -/
def numeric : CharSet := CharSet.unions
  [decimalNumber, CharSet.ofText "66B", prependedConcatenation.diff (CharSet.ofText "70F")]

/-- Characters that extend the word before them. -/
def wordExtend : CharSet := extend.union spacingMark

/-- Characters of Katakana words. -/
def katakana : CharSet :=
  (ofScript "Kana").union (CharSet.ofText "3031-3035 309B-309C 30A0 30FC FF70")

/-- Letters of the Hebrew script. -/
def hebrewLetter : CharSet := (ofScript "Hebr").inter otherLetter

/-- Characters of scripts written without spaces whose words are found with a dictionary. -/
def complexContext : CharSet := CharSet.ofText
    "E01-E3A E40-E4E E81-E82 E84 E86-E8A E8C-EA3 EA5 EA7-EBD EC0-EC4 EC6 EC8-ECE EDC-EDF 1000-103F
    1050-108F 109A-109F 1780-17D3 17D7 17DC-17DD 1950-196D 1970-1974 1980-19AB 19B0-19C9 19DA
    19DE-19DF 1A20-1A5E 1A60-1A7C 1AA0-1AAD A9E0-A9EF A9FA-A9FE AA60-AAC2 AADB-AADF 11700-1171A
    1171D-1172B 1173A-1173B 1173F-11746"

/-- Letters of words. -/
def wordLetter : CharSet :=
  (alphabetic.union (CharSet.ofText
    "2C2-2C5 2D2-2D7 2DE-2DF 2E5-2EB 2ED 2EF-2FF 55A-55C 55E 58A 5F3 70F A708-A716 A720-A721
    A789-A78A AB5B")).diff
    (CharSet.unions
      [ideographic, katakana, complexContext, ofScript "Hira", wordExtend, hebrewLetter])

/-- The values of characters with respect to words, the short name first. -/
def wordBreaks : List (List String × CharSet) := [
  (["CR"], CharSet.single '\r'),
  (["LF"], CharSet.single '\n'),
  (["NL", "Newline"], CharSet.ofText "B-C 85 2028-2029"),
  (["Extend"], wordExtend),
  (["ZWJ"], CharSet.ofText "200D"),
  (["FO", "Format"], format.diff (CharSet.unions
    [CharSet.ofText "70F 200B-200D", graphemeExtend, numeric])),
  (["RI", "Regional_Indicator"], regionalIndicator),
  (["KA", "Katakana"], katakana),
  (["HL", "Hebrew_Letter"], hebrewLetter),
  (["LE", "ALetter"], wordLetter),
  (["SQ", "Single_Quote"], CharSet.ofText "27"),
  (["DQ", "Double_Quote"], CharSet.ofText "22"),
  (["MB", "MidNumLet"], CharSet.ofText "2E 2018-2019 2024 FE52 FF07 FF0E"),
  (["ML", "MidLetter"], CharSet.ofText "3A B7 387 55F 5F4 2027 FE13 FE55 FF1A"),
  (["MN", "MidNum"], CharSet.ofText
      "2C 3B 37E 589 60C-60D 66C 7F8 2044 FE10 FE14 FE50 FE54 FF0C FF1B"),
  (["NU", "Numeric"], numeric),
  (["EX", "ExtendNumLet"], connectorPunctuation.union (CharSet.ofText "202F")),
  (["WSegSpace"], spaceSeparator.diff (CharSet.ofText "A0 2007 202F"))]

/-! ## Sentences -/

/-- Characters that extend the sentence before them. -/
def sentenceExtend : CharSet := CharSet.unions
  [graphemeExtend, spacingMark, CharSet.ofText "200D"]

/-- Small letters; the modern Georgian letters are without case here. -/
def sentenceLower : CharSet :=
  lowercase.diff (graphemeExtend.union (CharSet.ofText "10D0-10FA 10FD-10FF"))

/-- Capital letters, but for the Georgian ones. -/
def sentenceUpper : CharSet :=
  (titlecaseLetter.union uppercase).diff (CharSet.ofText "1C90-1CBA 1CBD-1CBF")

/-- Full stops, which may also end an abbreviation. -/
def fullStop : CharSet := CharSet.ofText "2E 2024 FE52 FF0E"

/-- Punctuation that ends a sentence for certain. -/
def terminator : CharSet := sentenceTerminal.diff fullStop

/-- Line ends that are one character, but for the carriage return and the line feed. -/
def separatorMark : CharSet := CharSet.ofText "85 2028-2029"

/-- The values of characters with respect to sentences, the short name first. -/
def sentenceBreaks : List (List String × CharSet) := [
  (["CR"], CharSet.single '\r'),
  (["LF"], CharSet.single '\n'),
  (["EX", "Extend"], sentenceExtend),
  (["SE", "Sep"], separatorMark),
  (["FO", "Format"], format.diff (CharSet.unions
    [CharSet.ofText "200C-200D", graphemeExtend, numeric])),
  (["SP", "Sp"], blanks.diff (separatorMark.union (CharSet.ofText "A D"))),
  (["LO", "Lower"], sentenceLower),
  (["UP", "Upper"], sentenceUpper),
  (["LE", "OLetter"], (alphabetic.union (CharSet.ofText "5F3")).diff
    (CharSet.unions [sentenceLower, sentenceUpper, sentenceExtend])),
  (["NU", "Numeric"], numeric.union (CharSet.ofText "66C")),
  (["AT", "ATerm"], fullStop),
  (["SC", "SContinue"], CharSet.ofText
      "2C-2D 3A-3B 37E 55D 60C-60D 7F8 1802 1808 2013-2014 3001 FE10-FE11 FE13-FE14 FE31-FE32
      FE50-FE51 FE54-FE55 FE58 FE63 FF0C-FF0D FF1A-FF1B FF64"),
  (["ST", "STerm"], terminator),
  (["CL", "Close"], (CharSet.unions
    [openPunctuation, closePunctuation, initialPunctuation, finalPunctuation, CharSet.ofText
      "22 27 275B-2760 2E00-2E01 2E06-2E08 2E0B 1F676-1F678"]).diff terminator)]

end GridAudit.Text.Segment
