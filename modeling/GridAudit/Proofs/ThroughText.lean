import GridAudit.Proofs.SignedNumbers
import GridAudit.Proofs.Typing

/-!
# Conversion through text

Texts, whole numbers and characters convert to each other by their texts alone: a value reads as a
whole number when its text does, and as a character when its text is that character. So it makes no
difference whether a value is converted at once or first written as text, and every whole number and
every character comes back from its text. Real numbers are another matter: none is a character,
while the text of some is.
-/

namespace GridAudit

/-! ## Texts of one character -/

namespace Number

variable {c : Char}

/-- The digits that numbers are written with follow each other from zero on. -/
theorem digitChar_eq_ofNat {d : Nat} (h : d < 10) : d.digitChar = Char.ofNat ('0'.toNat + d) := by
  have hdigits : ∀ d < 10, d.digitChar = Char.ofNat ('0'.toNat + d) := by decide
  exact hdigits d h

/-- The digits with a value are the ten that numbers are written with. -/
theorem digit?_eq_some_iff {d : Nat} : digit? c = some d ↔ d < 10 ∧ c = d.digitChar := by
  constructor
  · intro h
    by_cases hc : c.isDigit
    · rw [digit?_of_isDigit hc] at h
      obtain rfl := Option.some.inj h
      have hbounds : 48 ≤ c.toNat ∧ c.toNat ≤ 57 := by
        simpa [Char.isDigit, UInt32.le_iff_toNat_le] using hc
      have hzero : '0'.toNat = 48 := rfl
      have hlt : c.toNat - '0'.toNat < 10 := by omega
      refine ⟨hlt, ?_⟩
      rw [digitChar_eq_ofNat hlt, Nat.add_sub_cancel' (by omega), Char.ofNat_toNat]
    · rw [digit?_eq_none hc] at h
      contradiction
  · rintro ⟨hd, rfl⟩
    have hdigits : ∀ d < 10, digit? d.digitChar = some d := by decide
    exact hdigits d hd

/-- A signed numeral of one character is a digit. -/
theorem signedNumeral_singleton_iff {i : Int} :
    SignedNumeral [c] i ↔ ∃ d, digit? c = some d ∧ i = d := by
  have hread : natural? [c] = digit? c := by
    rw [natural?, digitsFrom]
    · cases digit? c <;> simp [digitsFrom]
    · exact List.cons_ne_nil c []
  constructor
  · intro h
    cases h with
    | @unsigned _ d h => exact ⟨d, hread ▸ natural?_eq_some_iff.mpr h, rfl⟩
    | plus h | minus h => exact absurd rfl h.ne_nil
  · rintro ⟨d, hd, rfl⟩
    exact .unsigned (natural?_eq_some_iff.mp (hread.trans hd))

/-- A text of one character reads as a number when the character is its digit. -/
theorem readsAs_singleton_iff {n : Int64} :
    ReadsAs (String.singleton c) n ↔ ∃ d, digit? c = some d ∧ n.toInt = d := by
  rw [← signedNumeral_singleton_iff]
  constructor
  · rintro ⟨before, numeral, after, -, -, h, htext⟩
    -- The numeral has a character, so there is no room for blanks.
    have hlength := congrArg List.length htext
    have hnumeral := List.length_pos_iff.mpr h.ne_nil
    simp only [String.toList_singleton, List.length_append, List.length_singleton] at hlength
    obtain rfl : before = [] := List.length_eq_zero_iff.mp (by omega)
    obtain rfl : after = [] := List.length_eq_zero_iff.mp (by omega)
    rw [String.toList_singleton, List.nil_append, List.append_nil] at htext
    rwa [htext]
  · intro h
    exact ⟨[], [c], [], List.forall_mem_nil _, List.forall_mem_nil _, h, by simp⟩

/-- The number of a digit is the word of its value. -/
theorem toInt_ofNat_of_digit? {d : Nat} (h : digit? c = some d) : (Int64.ofNat d).toInt = d := by
  have hd := (digit?_eq_some_iff.mp h).1
  exact Int64.toInt_ofNat_of_lt (by omega)

/-- A whole number is written with one character when it has one digit. -/
theorem toString_eq_singleton_iff {i : Int} :
    toString i = String.singleton c ↔ ∃ d : Nat, digit? c = some d ∧ i = d := by
  constructor
  · intro h
    have hnumeral := signedNumeral_toString i
    rw [h, String.toList_singleton] at hnumeral
    exact signedNumeral_singleton_iff.mp hnumeral
  · rintro ⟨d, hd, rfl⟩
    obtain ⟨hlt, rfl⟩ := digit?_eq_some_iff.mp hd
    rw [← String.toList_inj, String.toList_singleton]
    change (toString d).toList = _
    simp [Nat.toDigits_of_lt_base hlt]

end Number

/-! ## Readings of values -/

namespace Constant

variable {c : Constant}

/-- A value is the whole number that its text reads as. -/
theorem toInt?_eq_some_iff (hc : c.type ≠ .real) {n : Int64} :
    c.toInt? = some n ↔ Number.ReadsAs c.text n := by
  cases c with
  | string s => exact toInt?_string_eq_some_iff
  | int m =>
    have hm := toInt?_string_eq_some_iff.mpr (readsAs_text_int m)
    rw [← toInt?_string_eq_some_iff, hm]
    rfl
  | real r => contradiction
  | char ch =>
    rw [text, Number.readsAs_singleton_iff, toInt?, Option.map_eq_some_iff]
    apply exists_congr
    intro d
    apply and_congr_right
    intro hd
    rw [← Number.toInt_ofNat_of_digit? hd, Int64.toInt_inj, eq_comm]

/-- A value is the character that its text consists of. -/
theorem toChar?_eq_some_iff (hc : c.type ≠ .real) {ch : Char} :
    c.toChar? = some ch ↔ c.text = String.singleton ch := by
  cases c with
  | string s =>
    rw [text, ← String.toList_inj, String.toList_singleton, toChar?]
    split
    · next h => simp [h]
    · next h =>
      constructor
      · intro hnone
        contradiction
      · intro hs
        exact absurd hs (h ch)
  | int n =>
    rw [text, Number.toString_eq_singleton_iff, toChar?, Option.ite_none_right_eq_some,
      Option.some.injEq]
    constructor
    · rintro ⟨hbounds, rfl⟩
      have hlt : n.toInt.toNat < 10 := by omega
      refine ⟨n.toInt.toNat, ?_, by omega⟩
      exact Number.digit?_eq_some_iff.mpr ⟨hlt, (Number.digitChar_eq_ofNat hlt).symm⟩
    · rintro ⟨d, hd, hn⟩
      obtain ⟨hlt, rfl⟩ := Number.digit?_eq_some_iff.mp hd
      refine ⟨by omega, ?_⟩
      rw [hn, Int.toNat_natCast, Number.digitChar_eq_ofNat hlt]
  | real r => contradiction
  | char ch' => simp [text, toChar?, ← String.toList_inj]

/-- A value is converted like its text. -/
theorem convert_text (hc : c.type ≠ .real) {type : ValueType} (htype : type ≠ .real) :
    (Constant.string c.text).convert type = c.convert type := by
  have hstring : (Constant.string c.text).type ≠ .real := nofun
  cases type with
  | string => rfl
  | int =>
    have hread : (Constant.string c.text).toInt? = c.toInt? := by
      apply Option.ext
      intro n
      rw [toInt?_eq_some_iff hstring, toInt?_eq_some_iff hc, text]
    rw [convert, hread, convert]
  | real => contradiction
  | char =>
    have hread : (Constant.string c.text).toChar? = c.toChar? := by
      apply Option.ext
      intro ch
      rw [toChar?_eq_some_iff hstring, toChar?_eq_some_iff hc, text]
    rw [convert, hread, convert]
  | matcher | replacer => rfl

/-- The conversion of a value to a type goes as well through text. -/
structure GoesThroughText (c : Constant) (type : ValueType) : Prop where
  /-- The text of the value is converted to the same value, or like the value to none. -/
  through : (c.convert .string).bind (·.convert type) = c.convert type
  /-- What comes of the conversion has the type, and converts to the type as it is. -/
  settled : ∀ d, c.convert type = some d → d.type = type ∧ d.convert type = some d
  /-- The value comes back from its text. -/
  back : (c.convert .string).bind (·.convert c.type) = some c

/-- Between texts, whole numbers and characters every conversion goes as well through text. -/
theorem goesThroughText (c : Constant) (type : ValueType) (hc : c.type ≠ .real)
    (htype : type ≠ .real) : c.GoesThroughText type where
  through := convert_text hc htype
  settled d hd := by
    obtain rfl := type_of_convert hd
    exact ⟨rfl, d.convert_type⟩
  back := (convert_text hc hc).trans c.convert_type

/-- The least whole number comes back from its text, although without its sign it would be none. -/
theorem goesThroughText_minValue : (Constant.int Int64.minValue).type ≠ .real ∧
    ValueType.char ≠ .real ∧ (Constant.int Int64.minValue).GoesThroughText .char ∧
      (Constant.string "-9223372036854775808").convert .int = some (.int Int64.minValue) := by
  have h := goesThroughText (.int Int64.minValue) .char (by decide) (by decide)
  have htext : (Constant.int Int64.minValue).text = "-9223372036854775808" := by decide +kernel
  exact ⟨by decide, by decide, h, htext ▸ h.back⟩

/-- The text of a real number is converted to a character that the number is not. -/
example : (Constant.real 5).convert .char = none ∧
    (Constant.string (Constant.real 5).text).convert .char = some (.char '5') := by decide

end Constant

end GridAudit
