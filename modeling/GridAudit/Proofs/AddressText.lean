import Mathlib.Data.Set.Operations
import GridAudit.Proofs.AddressGrammar

/-!
# Addresses are read back as they are written

The text of a range is read as that range again when its sheet is open or has a name that an
address can hold, which are all but the empty one and the sign of an open part: rows and columns
are written in decimal digits, in which no colon occurs, so the last two colons part the text as
before, whatever colons the name of the sheet has. A range that is made of parts may have a sheet
of another name, and no text is read as such a range.
-/

namespace GridAudit

/-! ## Numbers -/

namespace Number

/-- The digits of a number are digits. -/
theorem isDigit_of_mem_digits {n : Nat} : ∀ c ∈ Nat.toDigits 10 n, c.isDigit := fun _ hc =>
  Nat.isDigit_of_mem_toDigits (by decide) (by decide) hc

/-- A number has a first digit. -/
theorem exists_toDigits_eq (n : Nat) : ∃ c cs, Nat.toDigits 10 n = c :: cs ∧ c.isDigit := by
  obtain ⟨c, cs, hcs⟩ := List.exists_cons_of_ne_nil (Nat.toDigits_ne_nil (n := n) (b := 10))
  exact ⟨c, cs, hcs, isDigit_of_mem_digits c (hcs ▸ List.mem_cons_self)⟩

/-- The digits of a number write it. -/
theorem numeral_toDigits (n : Nat) : Numeral (Nat.toDigits 10 n) n where
  ne_nil := Nat.toDigits_ne_nil
  isDigit := isDigit_of_mem_digits
  value := Nat.ofDigitChars_toDigits (by decide) (by decide)

/-- A number is read from its digits. -/
theorem natural?_toDigits (n : Nat) : natural? (Nat.toDigits 10 n) = some n :=
  natural?_eq_some_iff.mpr (numeral_toDigits n)

end Number

namespace CellRange

/-- A range that may be read from a text: a sheet that is given has a name other than the sign of an
open part, and rows and columns are indices. -/
def Readable : CellRange → Prop
  | .any => True
  | .within sheet row column =>
    sheet ≠ "" ∧ sheet ≠ "*" ∧ (∀ n ∈ row, n < Number.wordCount) ∧
      ∀ n ∈ column, n < Number.wordCount

/-- Rows and columns are written without colons. -/
theorem colon_notMem_indexText (i : Option Nat) : ':' ∉ (indexText i).toList := by
  cases i with
  | none => decide
  | some n =>
    intro h
    have hdigit : (':').isDigit := by
      refine Number.isDigit_of_mem_digits (n := n) ':' ?_
      simpa [indexText] using h
    contradiction

/-- A row or column is spelt as it is written. -/
theorem spells_indexText {i : Option Nat} (h : ∀ n ∈ i, n < Number.wordCount) :
    Spells (indexText i).toList i := by
  cases i with
  | none => exact .star
  | some n =>
    have hnumeral : Number.IndexNumeral (Nat.toDigits 10 n) n :=
      ⟨_, .inl rfl, Number.numeral_toDigits n, h n rfl⟩
    have hspells : Spells ([] ++ Nat.toDigits 10 n ++ []) (some n) := .index nofun hnumeral nofun
    simpa [indexText] using hspells

/-- A row or column that is spelt is an index. -/
theorem Spells.lt {cs : List Char} {i : Option Nat} (h : Spells cs i) :
    ∀ n ∈ i, n < Number.wordCount := by
  cases h with
  | star => nofun
  | index _ hnumeral _ =>
    obtain ⟨_, -, -, hlt⟩ := hnumeral
    rintro _ ⟨⟩
    exact hlt

/-- What is read from a text is readable. -/
theorem readable_of_parse {s : String} {r : CellRange} (h : parse s = .ok r) : r.Readable := by
  obtain ⟨outcome, hreading⟩ := exists_reading s
  obtain rfl := hreading.parse_eq.symm.trans h
  cases hreading with
  | any => trivial
  | within _ hempty hstar hrow hcolumn => exact ⟨hempty, hstar, hrow.lt, hcolumn.lt⟩

/-- A readable range is read from its text. -/
theorem Readable.parse_text {r : CellRange} (h : r.Readable) : parse r.text = .ok r := by
  cases r with
  | any => rfl
  | within sheet row column =>
    obtain ⟨hempty, hstar, hrow, hcolumn⟩ := h
    have hparts :
        Parts (text (.within sheet row column)) sheet (indexText row) (indexText column) :=
      ⟨rfl, colon_notMem_indexText row, colon_notMem_indexText column⟩
    have hreading := Reading.within hparts hempty hstar (spells_indexText hrow)
      (spells_indexText hcolumn)
    exact hreading.parse_eq

/-! ## Ranges however made -/

/-- A sheet that is given has a name that an address can hold. -/
def Named (r : CellRange) : Prop := ∀ name ∈ r.sheet?, name ≠ "" ∧ name ≠ "*"

/-- Rows and columns that are given are words, as the arguments of all constructors are. -/
structure InWords (r : CellRange) : Prop where
  row : ∀ n ∈ r.row?, n < Number.wordCount
  column : ∀ n ∈ r.column?, n < Number.wordCount

/-- A range that one of the constructors makes, of words and any name, or that a text is read as. -/
inductive Obtainable : CellRange → Prop
  | any : Obtainable .any
  | ofParts {sheet : Option String} {row column : Option Nat} {r : CellRange}
      (hrow : ∀ n ∈ row, n < Number.wordCount) (hcolumn : ∀ n ∈ column, n < Number.wordCount)
      (h : ofParts sheet row column = .ok r) : Obtainable r
  | ofCell (a : CellAddress) (hrow : a.row < Number.wordCount)
      (hcolumn : a.column < Number.wordCount) : Obtainable (ofCell a)
  | ofSheet (sheet : String) : Obtainable (ofSheet sheet)
  | parsed {s : String} {r : CellRange} (h : parse s = .ok r) : Obtainable r

variable {r : CellRange}

/-- What may be read from a text are ranges of words whose sheet is open or can be named. -/
theorem readable_iff : r.Readable ↔ r.Named ∧ r.InWords := by
  cases r with
  | any => exact ⟨fun _ => ⟨nofun, nofun, nofun⟩, fun _ => trivial⟩
  | within sheet row column =>
    constructor
    · rintro ⟨hempty, hstar, hrow, hcolumn⟩
      refine ⟨?_, hrow, hcolumn⟩
      rintro _ ⟨⟩
      exact ⟨hempty, hstar⟩
    · rintro ⟨hnamed, hrow, hcolumn⟩
      obtain ⟨hempty, hstar⟩ := hnamed sheet rfl
      exact ⟨hempty, hstar, hrow, hcolumn⟩

/-- A range made of parts has these parts. -/
theorem parts_of_ofParts {sheet : Option String} {row column : Option Nat}
    (h : ofParts sheet row column = .ok r) :
    r.sheet? = sheet ∧ r.row? = row ∧ r.column? = column := by
  unfold ofParts at h
  split at h
  · obtain rfl := Except.ok.inj h
    exact ⟨rfl, rfl, rfl⟩
  · obtain rfl := Except.ok.inj h
    exact ⟨rfl, rfl, rfl⟩
  · contradiction

/-- However a range is made, its rows and columns are words. -/
theorem Obtainable.inWords (h : r.Obtainable) : r.InWords := by
  cases h with
  | any => exact ⟨nofun, nofun⟩
  | ofParts hrow hcolumn h =>
    obtain ⟨-, rfl, rfl⟩ := parts_of_ofParts h
    exact ⟨hrow, hcolumn⟩
  | ofCell a hrow hcolumn =>
    constructor
    · rintro _ ⟨⟩
      exact hrow
    · rintro _ ⟨⟩
      exact hcolumn
  | ofSheet sheet => exact ⟨nofun, nofun⟩
  | parsed h => exact (readable_iff.mp (readable_of_parse h)).2

/-- A range is read from its text when its sheet is open or can be named. -/
theorem Obtainable.parse_text_iff (h : r.Obtainable) : parse r.text = .ok r ↔ r.Named := by
  constructor
  · intro hparse
    exact (readable_iff.mp (readable_of_parse hparse)).1
  · intro hnamed
    exact (readable_iff.mpr ⟨hnamed, h.inWords⟩).parse_text

/-- The address of a cell is written like the range of the cell. -/
theorem text_ofCell (a : CellAddress) : (ofCell a).text = a.text := rfl

/-- Addresses survive being written and read: a range, however made, is read from its text just when
its sheet is open or has a name other than the empty one and `*`. Ranges that were read from texts
always are, so their texts tell them apart, and the address of a cell of such a sheet is read as the
range of the one cell. -/
theorem readsBack :
    (∀ r : CellRange, r.Obtainable →
      (parse r.text = .ok r ↔ ∀ name ∈ r.sheet?, name ≠ "" ∧ name ≠ "*")) ∧
    (∀ s r, parse s = .ok r → parse r.text = .ok r) ∧
    Set.InjOn text {r | ∃ s, parse s = .ok r} ∧
    ∀ a : CellAddress, a.row < Number.wordCount → a.column < Number.wordCount →
      a.sheet ≠ "" → a.sheet ≠ "*" → parse a.text = .ok (ofCell a) := by
  have hparsed (s : String) (r : CellRange) (h : parse s = .ok r) : parse r.text = .ok r :=
    (readable_of_parse h).parse_text
  refine ⟨fun r h => h.parse_text_iff, hparsed, ?_, ?_⟩
  · rintro r ⟨s, h⟩ r' ⟨s', h'⟩ htext
    have hsame : Except.ok r = Except.ok r' :=
      calc Except.ok r = parse r.text := (hparsed s r h).symm
        _ = parse r'.text := by rw [htext]
        _ = Except.ok r' := hparsed s' r' h'
    exact Except.ok.inj hsame
  · intro a hrow hcolumn hempty hstar
    have hnamed : (ofCell a).Named := by
      rintro _ ⟨⟩
      exact ⟨hempty, hstar⟩
    rw [← text_ofCell]
    exact (Obtainable.ofCell a hrow hcolumn).parse_text_iff.mpr hnamed

/-- The last cell of a sheet with a colon in its name is read back, also from the range of the cell,
and the range of a sheet named `*` is not. -/
theorem readsBack_lastCell :
    let a : CellAddress := ⟨"Q1:*", 18446744073709551615, 18446744073709551615⟩
    parse a.text = .ok (ofCell a) ∧ parse (ofCell a).text = .ok (ofCell a) ∧
      parse (ofSheet "*").text ≠ .ok (ofSheet "*") := by
  intro a
  obtain ⟨hobtainable, hparsed, -, hcell⟩ := readsBack
  have hread : parse a.text = .ok (ofCell a) :=
    hcell a (by decide) (by decide) (by decide) (by decide)
  refine ⟨hread, hparsed a.text (ofCell a) hread, fun h => ?_⟩
  exact ((hobtainable (ofSheet "*") (.ofSheet "*")).mp h "*" rfl).2 rfl

end CellRange

end GridAudit
