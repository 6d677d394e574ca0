import GridAudit.Proofs.AddressText
import GridAudit.Value

/-!
# Signed numbers in text

A text reads as a number of 64 bits when what is left of it without the blanks around it is a
numeral, with or without a sign, of a number within the bounds. The text that a number is written as
is such a numeral, and no blank is in it, so every number is read back from its text.
-/

namespace GridAudit

/-! ## Reading -/

namespace Number

variable {cs : List Char}

/-- The text of a whole number: a numeral with or without a sign. -/
inductive SignedNumeral : List Char → Int → Prop
  | unsigned {digits : List Char} {n : Nat} (h : Numeral digits n) : SignedNumeral digits n
  | plus {digits : List Char} {n : Nat} (h : Numeral digits n) : SignedNumeral ('+' :: digits) n
  | minus {digits : List Char} {n : Nat} (h : Numeral digits n) :
    SignedNumeral ('-' :: digits) (-(n : Int))

/-- A whole number is read from its signed numerals alone. -/
theorem integer?_eq_some_iff {i : Int} : integer? cs = some i ↔ SignedNumeral cs i := by
  constructor
  · intro h
    unfold integer? at h
    split at h
    · obtain ⟨n, hn, rfl⟩ := Option.map_eq_some_iff.mp h
      exact .plus (natural?_eq_some_iff.mp hn)
    · obtain ⟨_, hcast, rfl⟩ := Option.map_eq_some_iff.mp h
      obtain ⟨n, hn, hi⟩ := Option.bind_eq_some_iff.mp hcast
      obtain rfl := Option.some.inj hi
      exact .minus (natural?_eq_some_iff.mp hn)
    · obtain ⟨n, hn, rfl⟩ := Option.map_eq_some_iff.mp h
      exact .unsigned (natural?_eq_some_iff.mp hn)
  · intro h
    cases h with
    | plus h | minus h =>
      rw [integer?, natural?_eq_some_iff.mpr h]
      rfl
    | unsigned h =>
      have hread := natural?_eq_some_iff.mpr h
      -- A sign is no digit, so the reader takes the text as it is.
      unfold integer?
      split
      · exact absurd (h.isDigit '+' List.mem_cons_self) (by decide)
      · exact absurd (h.isDigit '-' List.mem_cons_self) (by decide)
      · rw [hread]
        rfl

/-- The integers that have a word are those of words. -/
theorem word?_eq_some_iff {i : Int} {n : Int64} : word? i = some n ↔ i = n.toInt := by
  have hlower := n.le_toInt
  have hupper := n.toInt_lt
  unfold word?
  constructor
  · intro h
    split at h
    · next hbounds =>
      obtain rfl := Option.some.inj h
      simp only [signBound] at hbounds
      exact (Int64.toInt_ofInt_of_le (by omega) (by omega)).symm
    · contradiction
  · rintro rfl
    have hbounds : -(signBound : Int) ≤ n.toInt ∧ n.toInt < signBound := by
      simp only [signBound]
      omega
    rw [if_pos hbounds, Int64.ofInt_toInt]

/-- A word is read from the signed numerals of its integer alone. -/
theorem int64?_eq_some_iff {n : Int64} : int64? cs = some n ↔ SignedNumeral cs n.toInt := by
  rw [int64?, Option.bind_eq_some_iff]
  constructor
  · rintro ⟨i, hi, hn⟩
    exact word?_eq_some_iff.mp hn ▸ integer?_eq_some_iff.mp hi
  · intro h
    exact ⟨n.toInt, integer?_eq_some_iff.mpr h, word?_eq_some_iff.mpr rfl⟩

/-! ## Writing -/

/-- An integer is written as a signed numeral. -/
theorem signedNumeral_toString (i : Int) : SignedNumeral (toString i).toList i := by
  cases i with
  | ofNat n =>
    have hchars : (toString (Int.ofNat n)).toList = Nat.toDigits 10 n := by
      change (toString n).toList = _
      simp
    exact hchars ▸ .unsigned (numeral_toDigits n)
  | negSucc n =>
    have hchars : (toString (Int.negSucc n)).toList = '-' :: Nat.toDigits 10 (n + 1) := by
      change ("-" ++ toString (n + 1)).toList = _
      simp
    exact hchars ▸ .minus (numeral_toDigits (n + 1))

namespace SignedNumeral

variable {i : Int}

/-- A signed numeral has a character. -/
theorem ne_nil (h : SignedNumeral cs i) : cs ≠ [] := by
  cases h with
  | unsigned h => exact h.ne_nil
  | plus | minus => exact List.cons_ne_nil _ _

/-- No character of a signed numeral is blank. -/
theorem isBlank_eq_false (h : SignedNumeral cs i) : ∀ c ∈ cs, Text.isBlank c = false := by
  have hdigits {digits : List Char} {n : Nat} (h : Numeral digits n) :
      ∀ c ∈ digits, Text.isBlank c = false :=
    fun c hc => Text.isBlank_of_isDigit (h.isDigit c hc)
  cases h with
  | unsigned h => exact hdigits h
  | plus h | minus h => exact List.forall_mem_cons.mpr ⟨by decide, hdigits h⟩

/-- A signed numeral is what is left of it, with blanks around it, when these are trimmed. -/
theorem trimChars_eq (h : SignedNumeral cs i) {before after : List Char}
    (hbefore : ∀ c ∈ before, Text.isBlank c) (hafter : ∀ c ∈ after, Text.isBlank c) :
    Text.trimChars (before ++ cs ++ after) = cs :=
  Text.trimChars_append hbefore h.ne_nil h.isBlank_eq_false hafter

end SignedNumeral

end Number

/-! ## Values -/

/-- A text reads as a number when it is a signed numeral of it among blanks. -/
def Number.ReadsAs (text : String) (n : Int64) : Prop :=
  ∃ before numeral after, (∀ c ∈ before, Text.isBlank c) ∧ (∀ c ∈ after, Text.isBlank c) ∧
    SignedNumeral numeral n.toInt ∧ text.toList = before ++ numeral ++ after

namespace Constant

/-- A text is converted to the number that it reads as. -/
theorem toInt?_string_eq_some_iff {text : String} {n : Int64} :
    (Constant.string text).toInt? = some n ↔ Number.ReadsAs text n := by
  rw [toInt?, Number.int64?_eq_some_iff]
  constructor
  · intro h
    obtain ⟨before, after, hbefore, hafter, htext⟩ :=
      Text.exists_eq_append_trimChars text.toList
    exact ⟨before, _, after, hbefore, hafter, h, htext⟩
  · rintro ⟨before, numeral, after, hbefore, hafter, h, htext⟩
    rwa [htext, h.trimChars_eq hbefore hafter]

/-- A number is read back from its text. -/
theorem readsAs_text_int (n : Int64) : Number.ReadsAs (Constant.int n).text n :=
  ⟨[], _, [], List.forall_mem_nil _, List.forall_mem_nil _, Number.signedNumeral_toString n.toInt,
    by simp [text]⟩

end Constant

end GridAudit
