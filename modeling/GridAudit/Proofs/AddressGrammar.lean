import Mathlib.Data.List.TakeWhile
import GridAudit.Address
import GridAudit.Proofs.Results

/-!
# The grammar of addresses

An address is parted at its last two colons into a sheet with a name, a row and a column. A row or
column is `*`, just so, or an index with or without a plus sign, which may stand among blanks. Where
the sheet is `*`, so are the row and the column. Reading accepts the texts of this grammar alone and
finds their parts. Of several faults it reports that of the form first, then that of the row, that
of the column, and an open sheet last.
-/

namespace GridAudit

/-! ## Indices -/

namespace Number

/-- Digits that write a number. -/
structure Numeral (digits : List Char) (n : Nat) : Prop where
  ne_nil : digits ≠ []
  isDigit : ∀ c ∈ digits, c.isDigit
  value : Nat.ofDigitChars 10 digits 0 = n

/-- The value of a digit. -/
theorem digit?_of_isDigit {c : Char} (h : c.isDigit) : digit? c = some (c.toNat - '0'.toNat) := by
  have hbounds : 48 ≤ c.val ∧ c.val ≤ 57 := by simpa [Char.isDigit] using h
  exact if_pos hbounds

/-- Other characters than ASCII digits have no value as digits. -/
theorem digit?_eq_none {c : Char} (h : ¬c.isDigit) : digit? c = none := by
  have hbounds : ¬('0' ≤ c ∧ c ≤ '9') := by simpa [Char.isDigit, Char.le_def] using h
  exact if_neg hbounds

/-- A number goes on with digits alone. -/
theorem digitsFrom_eq_some_iff {value n : Nat} {cs : List Char} :
    digitsFrom value cs = some n ↔ (∀ c ∈ cs, c.isDigit) ∧ Nat.ofDigitChars 10 cs value = n := by
  induction cs generalizing value with
  | nil => simp [digitsFrom]
  | cons c rest ih =>
    by_cases hc : c.isDigit
    · rw [digitsFrom, digit?_of_isDigit hc, ih, Nat.ofDigitChars_cons]
      simp [hc]
    · rw [digitsFrom, digit?_eq_none hc]
      simp [hc]

/-- A number is read from its numerals alone. -/
theorem natural?_eq_some_iff {cs : List Char} {n : Nat} : natural? cs = some n ↔ Numeral cs n := by
  cases cs with
  | nil => exact ⟨nofun, fun h => absurd rfl h.ne_nil⟩
  | cons c rest =>
    rw [natural?, digitsFrom_eq_some_iff]
    · exact ⟨fun h => ⟨nofun, h.1, h.2⟩, fun h => ⟨h.isDigit, h.value⟩⟩
    · nofun

/-- The text of an index: a numeral of a number below the number of words, with or without a plus
sign. -/
def IndexNumeral (cs : List Char) (n : Nat) : Prop :=
  ∃ digits, (cs = digits ∨ cs = '+' :: digits) ∧ Numeral digits n ∧ n < wordCount

/-- An index is read from its numerals alone. -/
theorem index?_eq_some_iff {cs : List Char} {n : Nat} : index? cs = some n ↔ IndexNumeral cs n := by
  constructor
  · intro h
    unfold index? at h
    dsimp only at h
    split at h
    · next m hm =>
      split at h
      · next hlt =>
        obtain rfl := Option.some.inj h
        split at hm
        · next rest => exact ⟨rest, .inr rfl, natural?_eq_some_iff.mp hm, hlt⟩
        · exact ⟨cs, .inl rfl, natural?_eq_some_iff.mp hm, hlt⟩
      · contradiction
    · contradiction
  · rintro ⟨digits, hcs, h, hlt⟩
    have hread := natural?_eq_some_iff.mpr h
    rcases hcs with rfl | rfl
    · unfold index?
      split
      · have hsign := h.isDigit '+' List.mem_cons_self
        contradiction
      · simp only [hread, hlt, ↓reduceIte]
    · simp only [index?, hread, hlt, ↓reduceIte]

end Number

/-! ## Blanks -/

namespace Text

/-- Digits are not blank. -/
theorem isBlank_of_isDigit {c : Char} (h : c.isDigit) : isBlank c = false := by
  have hbounds : 48 ≤ c.toNat ∧ c.toNat ≤ 57 := by
    simpa [Char.isDigit, UInt32.le_iff_toNat_le] using h
  have hcode : ¬c.toNat ≤ 0x20 ∧ c.toNat ≤ 0x85 ∧ ¬0x85 ≤ c.toNat := by omega
  have hlow : ¬c.toNat ≤ 0xD := by omega
  simp only [isBlank, CharSet.contains, CharSet.hasCode, blanks, CharSet.holds, hcode, hlow,
    ↓reduceIte, decide_false]

/-- Blanks before a character that is not blank are dropped. -/
theorem dropWhile_isBlank_append {before rest : List Char} (hbefore : ∀ c ∈ before, isBlank c)
    (hrest : ∀ c ∈ rest.head?, isBlank c = false) : (before ++ rest).dropWhile isBlank = rest := by
  rw [List.dropWhile_append_of_pos hbefore]
  cases rest with
  | nil => rfl
  | cons c rest => exact List.dropWhile_cons_of_neg (by simp [hrest c rfl])

/-- Blanks around a text without blanks are trimmed. -/
theorem trimChars_append {before middle after : List Char} (hbefore : ∀ c ∈ before, isBlank c)
    (hne : middle ≠ []) (hmiddle : ∀ c ∈ middle, isBlank c = false)
    (hafter : ∀ c ∈ after, isBlank c) : trimChars (before ++ middle ++ after) = middle := by
  have hfront : ∀ c ∈ (middle ++ after).head?, isBlank c = false := by
    rw [List.head?_append_of_ne_nil middle hne]
    exact fun c hc => hmiddle c (List.mem_of_head? hc)
  have hback : ∀ c ∈ middle.reverse.head?, isBlank c = false := fun c hc =>
    hmiddle c (List.mem_reverse.mp (List.mem_of_head? hc))
  have hafter' : ∀ c ∈ after.reverse, isBlank c := fun c hc => hafter c (List.mem_reverse.mp hc)
  rw [trimChars, List.append_assoc, dropWhile_isBlank_append hbefore hfront, List.reverse_append,
    dropWhile_isBlank_append hafter' hback, List.reverse_reverse]

/-- A text is what is left of it when it is trimmed, with blanks around it. -/
theorem exists_eq_append_trimChars (cs : List Char) : ∃ before after,
    (∀ c ∈ before, isBlank c) ∧ (∀ c ∈ after, isBlank c) ∧
      cs = before ++ trimChars cs ++ after := by
  have hsplit : trimChars cs ++ ((cs.dropWhile isBlank).reverse.takeWhile isBlank).reverse =
      cs.dropWhile isBlank := by
    rw [trimChars, ← List.reverse_append, List.takeWhile_append_dropWhile, List.reverse_reverse]
  refine ⟨cs.takeWhile isBlank, ((cs.dropWhile isBlank).reverse.takeWhile isBlank).reverse,
    fun c hc => List.mem_takeWhile_imp hc,
    fun c hc => List.mem_takeWhile_imp (List.mem_reverse.mp hc), ?_⟩
  rw [List.append_assoc, hsplit, List.takeWhile_append_dropWhile]

end Text

namespace Number.IndexNumeral

variable {cs : List Char} {n : Nat}

/-- The text of an index has a digit. -/
theorem exists_isDigit (h : IndexNumeral cs n) : ∃ c ∈ cs, c.isDigit := by
  obtain ⟨digits, hcs, hdigits, -⟩ := h
  obtain ⟨c, rest, rfl⟩ := List.exists_cons_of_ne_nil hdigits.ne_nil
  refine ⟨c, ?_, hdigits.isDigit c List.mem_cons_self⟩
  rcases hcs with rfl | rfl <;> simp

/-- The text of an index has no blanks. -/
theorem isBlank_eq_false (h : IndexNumeral cs n) : ∀ c ∈ cs, Text.isBlank c = false := by
  obtain ⟨digits, hcs, hdigits, -⟩ := h
  have hblank : ∀ c ∈ digits, Text.isBlank c = false := fun c hc =>
    Text.isBlank_of_isDigit (hdigits.isDigit c hc)
  rcases hcs with rfl | rfl
  · exact hblank
  · exact List.forall_mem_cons.mpr ⟨by decide, hblank⟩

end Number.IndexNumeral

namespace CellRange

/-- What may stand for a row or column in an address, and what it stands for: `*` if the part is
open, and otherwise an index, which may have blanks around it. -/
inductive Spells : List Char → Option Nat → Prop
  | star : Spells ['*'] none
  | index {before numeral after : List Char} {n : Nat} (hbefore : ∀ c ∈ before, Text.isBlank c)
      (hnumeral : Number.IndexNumeral numeral n) (hafter : ∀ c ∈ after, Text.isBlank c) :
      Spells (before ++ numeral ++ after) (some n)

/-- A row or column is read as what it spells. -/
theorem readIndex_eq_ok_iff {axis : Axis} {cs : List Char} {i : Option Nat} :
    readIndex axis cs = .ok i ↔ Spells cs i := by
  constructor
  · intro h
    unfold readIndex at h
    split at h
    · next hstar =>
      obtain rfl := Except.ok.inj h
      exact hstar ▸ .star
    · split at h
      · next n hn =>
        obtain rfl := Except.ok.inj h
        obtain ⟨before, after, hbefore, hafter, hcs⟩ := Text.exists_eq_append_trimChars cs
        rw [hcs]
        exact .index hbefore (Number.index?_eq_some_iff.mp hn) hafter
      · contradiction
  · intro h
    cases h with
    | star => rfl
    | @index before numeral after n hbefore hnumeral hafter =>
      obtain ⟨c, hc, hdigit⟩ := hnumeral.exists_isDigit
      have hstar : before ++ numeral ++ after ≠ ['*'] := by
        intro hstar
        have hmem : c ∈ ['*'] := hstar ▸ by simp [hc]
        obtain rfl := List.mem_singleton.mp hmem
        contradiction
      rw [readIndex, if_neg hstar, Text.trimChars_append hbefore (List.ne_nil_of_mem hc)
        hnumeral.isBlank_eq_false hafter, Number.index?_eq_some_iff.mpr hnumeral]

/-- A row or column that spells nothing is reported as it stands. -/
theorem readIndex_eq_error {axis : Axis} {cs : List Char} (h : ∀ i, ¬Spells cs i) :
    readIndex axis cs = .error (.badIndex axis (String.ofList cs)) := by
  cases hread : readIndex axis cs with
  | ok i => exact absurd (readIndex_eq_ok_iff.mp hread) (h i)
  | error e =>
    unfold readIndex at hread
    split at hread
    · contradiction
    · split at hread
      · contradiction
      · exact hread.symm

/-! ## Parts -/

/-- A text parted at its last two colons. -/
structure Parts (s sheet row column : String) : Prop where
  text : s = sheet ++ ":" ++ row ++ ":" ++ column
  row : ':' ∉ row.toList
  column : ':' ∉ column.toList

/-- A list without a mark is not cut at it. -/
theorem cutLast_eq_none {mark : Char} {cs : List Char} (h : mark ∉ cs) :
    cutLast mark cs = none := by
  induction cs with
  | nil => rfl
  | cons c rest ih =>
    rw [List.mem_cons, not_or] at h
    obtain ⟨hc, hrest⟩ := h
    simp only [cutLast, ih hrest, Ne.symm hc, ↓reduceIte]

/-- A list is cut at a mark that does not occur again. -/
theorem cutLast_append {mark : Char} (before : List Char) {after : List Char} (h : mark ∉ after) :
    cutLast mark (before ++ mark :: after) = some (before, after) := by
  induction before with
  | nil => simp only [List.nil_append, cutLast, cutLast_eq_none h, ↓reduceIte]
  | cons c rest ih => simp only [List.cons_append, cutLast, ih]

/-- A list that is not cut has no mark. -/
theorem notMem_of_cutLast {mark : Char} {cs : List Char} (h : cutLast mark cs = none) :
    mark ∉ cs := by
  induction cs with
  | nil => exact List.not_mem_nil
  | cons c rest ih =>
    unfold cutLast at h
    split at h
    · contradiction
    · next hrest =>
      split at h
      · contradiction
      · next hc => exact List.not_mem_cons_of_ne_of_not_mem (Ne.symm hc) (ih hrest)

/-- A list is cut at its last mark. -/
theorem eq_append_of_cutLast {mark : Char} {cs before after : List Char}
    (h : cutLast mark cs = some (before, after)) : cs = before ++ mark :: after ∧ mark ∉ after := by
  induction cs generalizing before with
  | nil => contradiction
  | cons c rest ih =>
    unfold cutLast at h
    split at h
    · next hrest =>
      obtain ⟨rfl, rfl⟩ := Prod.mk.inj (Option.some.inj h)
      obtain ⟨rfl, hafter⟩ := ih hrest
      exact ⟨rfl, hafter⟩
    · next hrest =>
      split at h
      · next hc =>
        obtain ⟨rfl, rfl⟩ := Prod.mk.inj (Option.some.inj h)
        exact ⟨by rw [hc, List.nil_append], notMem_of_cutLast hrest⟩
      · contradiction

section

variable {s sheet row column : String}

/-- The characters of a text that is parted. -/
theorem Parts.toList_eq (h : Parts s sheet row column) :
    s.toList = sheet.toList ++ ':' :: (row.toList ++ ':' :: column.toList) := by
  simp [h.text]

/-- A text is cut into its parts when its sheet has a name. -/
theorem Parts.cutParts_eq (h : Parts s sheet row column) : cutParts s.toList =
    if sheet = "" then none else some (sheet.toList, row.toList, column.toList) := by
  have hcut : cutLast ':' s.toList = some (sheet.toList ++ ':' :: row.toList, column.toList) := by
    rw [h.toList_eq, ← List.cons_append, ← List.append_assoc]
    exact cutLast_append (sheet.toList ++ ':' :: row.toList) h.column
  simp only [cutParts, hcut, cutLast_append sheet.toList h.row, List.isEmpty_iff,
    String.toList_eq_nil_iff]

/-- A text with fewer than two colons is not cut. -/
theorem cutParts_eq_none_of_count {cs : List Char} (h : cs.count ':' < 2) : cutParts cs = none := by
  unfold cutParts
  split
  · rfl
  · next front column hcut =>
    obtain ⟨rfl, -⟩ := eq_append_of_cutLast hcut
    have hfront : front.count ':' = 0 := by
      rw [List.count_append, List.count_cons_self] at h
      omega
    rw [cutLast_eq_none (List.count_eq_zero.mp hfront)]

/-- A text with two colons has parts. -/
theorem exists_parts (h : 2 ≤ s.toList.count ':') :
    ∃ sheet row column, Parts s sheet row column := by
  cases hcut : cutLast ':' s.toList with
  | none =>
    rw [List.count_eq_zero.mpr (notMem_of_cutLast hcut)] at h
    omega
  | some cut =>
    obtain ⟨hs, hcolumn⟩ := eq_append_of_cutLast hcut
    cases hfront : cutLast ':' cut.1 with
    | none =>
      rw [hs, List.count_append, List.count_cons_self, List.count_eq_zero.mpr hcolumn,
        List.count_eq_zero.mpr (notMem_of_cutLast hfront)] at h
      omega
    | some front =>
      obtain ⟨hcut', hrow⟩ := eq_append_of_cutLast hfront
      refine ⟨String.ofList front.1, String.ofList front.2, String.ofList cut.2, ?_,
        by rwa [String.toList_ofList], by rwa [String.toList_ofList]⟩
      rw [← String.toList_inj, hs, hcut']
      simp

end

/-! ## Outcomes -/

/-- What a text is read as. Each outcome has a condition of its own. -/
inductive Reading (s : String) : Except AddressError CellRange → Prop
  | tooFewColons (h : s.toList.count ':' < 2) : Reading s (.error (.malformed s))
  | unnamed {row column : String} (h : Parts s "" row column) : Reading s (.error (.malformed s))
  | badRow {sheet row column : String} (h : Parts s sheet row column) (hsheet : sheet ≠ "")
      (hrow : ∀ i, ¬Spells row.toList i) : Reading s (.error (.badIndex .row row))
  | badColumn {sheet row column : String} {i : Option Nat} (h : Parts s sheet row column)
      (hsheet : sheet ≠ "") (hrow : Spells row.toList i) (hcolumn : ∀ j, ¬Spells column.toList j) :
      Reading s (.error (.badIndex .column column))
  | openSheet {row column : String} {i j : Option Nat} (h : Parts s "*" row column)
      (hrow : Spells row.toList i) (hcolumn : Spells column.toList j)
      (hgiven : i ≠ none ∨ j ≠ none) : Reading s (.error (.openSheet s))
  | any {row column : String} (h : Parts s "*" row column) (hrow : Spells row.toList none)
      (hcolumn : Spells column.toList none) : Reading s (.ok .any)
  | within {sheet row column : String} {i j : Option Nat} (h : Parts s sheet row column)
      (hempty : sheet ≠ "") (hstar : sheet ≠ "*") (hrow : Spells row.toList i)
      (hcolumn : Spells column.toList j) : Reading s (.ok (.within sheet i j))

variable {s : String} {outcome : Except AddressError CellRange}

/-- Every text has an outcome. -/
theorem exists_reading (s : String) : ∃ outcome, Reading s outcome := by
  by_cases hcount : s.toList.count ':' < 2
  · exact ⟨_, .tooFewColons hcount⟩
  obtain ⟨sheet, row, column, h⟩ := exists_parts (Nat.le_of_not_lt hcount)
  by_cases hempty : sheet = ""
  · exact ⟨_, .unnamed (hempty ▸ h)⟩
  by_cases hrow : ∃ i, Spells row.toList i
  case neg => exact ⟨_, .badRow h hempty (not_exists.mp hrow)⟩
  obtain ⟨i, hi⟩ := hrow
  by_cases hcolumn : ∃ j, Spells column.toList j
  case neg => exact ⟨_, .badColumn h hempty hi (not_exists.mp hcolumn)⟩
  obtain ⟨j, hj⟩ := hcolumn
  by_cases hstar : sheet = "*"
  case neg => exact ⟨_, .within h hempty hstar hi hj⟩
  subst hstar
  by_cases hgiven : i ≠ none ∨ j ≠ none
  · exact ⟨_, .openSheet h hi hj hgiven⟩
  · simp only [not_or, not_not] at hgiven
    exact ⟨_, .any h (hgiven.1 ▸ hi) (hgiven.2 ▸ hj)⟩

/-- A text is read with its outcome. -/
theorem Reading.parse_eq (h : Reading s outcome) : parse s = outcome := by
  cases h with
  | tooFewColons h => rw [parse, cutParts_eq_none_of_count h]
  | unnamed h => rw [parse, h.cutParts_eq, if_pos rfl]
  | badRow h hsheet hrow =>
    rw [parse, h.cutParts_eq, if_neg hsheet]
    simp only [readIndex_eq_error hrow, String.ofList_toList]
    rfl
  | badColumn h hsheet hrow hcolumn =>
    rw [parse, h.cutParts_eq, if_neg hsheet]
    simp only [readIndex_eq_ok_iff.mpr hrow, readIndex_eq_error hcolumn, String.ofList_toList]
    rfl
  | @openSheet _ _ i j h hrow hcolumn hgiven =>
    rw [parse, h.cutParts_eq, if_neg (by decide)]
    simp only [readIndex_eq_ok_iff.mpr hrow, readIndex_eq_ok_iff.mpr hcolumn]
    cases i with
    | some i => rfl
    | none => cases j with
      | some j => rfl
      | none => simp at hgiven
  | any h hrow hcolumn =>
    rw [parse, h.cutParts_eq, if_neg (by decide)]
    simp only [readIndex_eq_ok_iff.mpr hrow, readIndex_eq_ok_iff.mpr hcolumn]
    rfl
  | within h hempty hstar hrow hcolumn =>
    rw [parse, h.cutParts_eq, if_neg hempty]
    have hstar' : ¬_ = ['*'] := fun h => hstar (String.toList_inj.mp h)
    simp only [readIndex_eq_ok_iff.mpr hrow, readIndex_eq_ok_iff.mpr hcolumn, hstar', ↓reduceIte,
      String.ofList_toList]
    rfl

/-- An address is read by its grammar. -/
theorem parse_eq_iff_reading : parse s = outcome ↔ Reading s outcome := by
  constructor
  · intro h
    obtain ⟨outcome', hreading⟩ := exists_reading s
    rwa [← h, hreading.parse_eq]
  · exact Reading.parse_eq

/-- A sheet may have a colon in its name, an index a sign, zeros and blanks, and `*` no blanks. -/
example : parse "Q1:Totals: +007 :*" = .ok (.within "Q1:Totals" (some 7) none) ∧
    parse "Q1:+7: *" = .error (.badIndex .column " *") := by decide

end CellRange

end GridAudit
