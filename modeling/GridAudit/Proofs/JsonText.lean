import GridAudit.Json.Printer
import GridAudit.Json.Reader
import GridAudit.Proofs.AddressText

/-!
# JSON is read back as it is printed

A printed value is read as that value again, whatever follows it: the end of the text, or one of the
marks that stand between values. Strings may hold any characters, as an escape is undone by the
reader of escapes and no character is a surrogate; numbers are the whole numbers of 64 bits, whose
digits have no leading zero.
-/

namespace GridAudit

/-! ## Whole numbers -/

namespace Number

/-- The digits of a number start with zero for zero alone, which is one digit. -/
theorem length_toDigits_of_head? {n : Nat} (h : (Nat.toDigits 10 n).head? = some '0') :
    (Nat.toDigits 10 n).length = 1 := by
  induction n using Nat.strongRecOn with
  | ind n ih =>
    rcases Nat.lt_or_ge n 10 with hn | hn
    · rw [Nat.toDigits_of_lt_base hn]
      rfl
    · have hquotient : (Nat.toDigits 10 (n / 10)).head? = some '0' := by
        rw [Nat.toDigits_of_base_le (by decide) hn] at h
        obtain ⟨c, cs, hcs, -⟩ := exists_toDigits_eq (n / 10)
        simpa [hcs] using h
      -- the digits of the quotient would be a single zero, but the quotient is not zero
      have hlength := ih (n / 10) (by omega) hquotient
      obtain ⟨c, hc⟩ := List.length_eq_one_iff.mp hlength
      have hzero : c = '0' := by simpa [hc] using hquotient
      have hvalue := natural?_toDigits (n / 10)
      rw [hc, hzero] at hvalue
      have : n / 10 = 0 := (Option.some.inj hvalue).symm
      omega

end Number

namespace JsonNumber

/-- The digits of a whole number of 64 bits make it again. -/
theorem value?_ofInt (i : Int64) : (ofInt i.toInt).value? =
    some (if i.toInt < 0 then .negative i else .natural i.toInt.natAbs) := by
  have hlower := i.le_toInt
  have hupper := i.toInt_lt
  have hdigits : Number.natural? (ofInt i.toInt).whole = some i.toInt.natAbs := by
    simpa [ofInt] using Number.natural?_toDigits i.toInt.natAbs
  have hwhole : (ofInt i.toInt).isWhole = true := rfl
  rw [value?, hwhole, hdigits]
  by_cases hneg : i.toInt < 0
  · have hbounds : 0 < i.toInt.natAbs ∧ i.toInt.natAbs ≤ Number.signBound := by
      simp only [Number.signBound]
      omega
    have hvalue : -(i.toInt.natAbs : Int) = i.toInt := by omega
    simp only [ofInt, hneg, decide_true, ↓reduceIte, hbounds, and_self, hvalue, Int64.ofInt_toInt]
  · have hbound : i.toInt.natAbs < Number.wordCount := by
      simp only [Number.wordCount]
      omega
    simp only [ofInt, hneg, decide_false, Bool.false_eq_true, ↓reduceIte, hbound]

end JsonNumber

namespace Json

/-- A text may follow a value: it is over, or goes on with a mark that ends the value. -/
def MayFollow (rest : List Char) : Prop := ∀ c ∈ rest.head?, c = ',' ∨ c = ']' ∨ c = '}'

/-- A mark that ends a value may follow it. -/
theorem mayFollow_cons {c : Char} (h : c = ',' ∨ c = ']' ∨ c = '}') (rest : List Char) :
    MayFollow (c :: rest) := by
  rintro _ ⟨⟩
  exact h

/-- Digits are the same to the reader. -/
theorem isDigit_eq (c : Char) : isDigit c = c.isDigit := by
  unfold isDigit Number.digit?
  rw [Bool.eq_iff_iff]
  have hiff : c.isDigit = true ↔ '0' ≤ c ∧ c ≤ '9' := by
    simp only [Char.isDigit, ge_iff_le, Bool.and_eq_true, decide_eq_true_eq]
    exact Iff.rfl
  rw [hiff]
  split <;> simp [*]

/-- Digits are read up to what follows. -/
theorem readDigits_append {ds rest : List Char} (hne : ds ≠ []) (hdigits : ∀ c ∈ ds, c.isDigit)
    (hrest : MayFollow rest) : readDigits (ds ++ rest) = .ok (ds, rest) := by
  have hds : ∀ c ∈ ds, isDigit c := fun c hc => by rw [isDigit_eq, hdigits c hc]
  have hstop : rest.takeWhile isDigit = [] ∧ rest.dropWhile isDigit = rest := by
    cases rest with
    | nil => exact ⟨rfl, rfl⟩
    | cons c more => rcases hrest c rfl with rfl | rfl | rfl <;> exact ⟨rfl, rfl⟩
  have htake : (ds ++ rest).takeWhile isDigit = ds := by
    rw [List.takeWhile_append_of_pos hds, hstop.1, List.append_nil]
  have hdrop : (ds ++ rest).dropWhile isDigit = rest := by
    rw [List.dropWhile_append_of_pos hds, hstop.2]
  cases ds with
  | nil => exact absurd rfl hne
  | cons d more =>
    rw [List.cons_append] at htake hdrop ⊢
    simp only [readDigits, hds d List.mem_cons_self, ↓reduceIte, htake, hdrop]

/-- A whole number is read from its digits. -/
theorem readNumber_digits (negative : Bool) (n : Nat) {rest : List Char} (hrest : MayFollow rest) :
    readNumber negative (Nat.toDigits 10 n ++ rest) =
      .ok (.number ⟨negative, Nat.toDigits 10 n, [], []⟩, rest) := by
  have hread := readDigits_append Nat.toDigits_ne_nil (Number.isDigit_of_mem_digits (n := n)) hrest
  have hzero : ¬((Nat.toDigits 10 n).head? = some '0' && 1 < (Nat.toDigits 10 n).length) := by
    intro h
    obtain ⟨hhead, hlength⟩ := Bool.and_eq_true_iff.mp h
    have := Number.length_toDigits_of_head? (of_decide_eq_true hhead)
    simp [this] at hlength
  rw [readNumber, hread]
  simp only [bind, Except.bind, hzero, Bool.false_eq_true, ↓reduceIte]
  cases rest with
  | nil => rfl
  | cons c more => rcases hrest c rfl with rfl | rfl | rfl <;> rfl

/-! ## Strings -/

/-- A hexadecimal digit is read as the number it was made of. -/
theorem hexDigit?_hexDigit : ∀ n < 16, CharSet.hexDigit? (hexDigit n) = some n := by decide

/-- A hexadecimal digit is one octet. -/
theorem utf8Size_hexDigit : ∀ n < 16, (hexDigit n).utf8Size = 1 := by decide

/-- The code of a control character is read from its four digits. -/
theorem readUnit_control {code : Nat} (h : code < 0x20) (rest : List Char) :
    readUnit ('0' :: '0' :: hexDigit (code / 16) :: hexDigit (code % 16) :: rest) =
      .ok (code, rest) := by
  have hhigh : code / 16 < 16 := by omega
  have hlow : code % 16 < 16 := Nat.mod_lt _ (by decide)
  have hzero : CharSet.hexDigit? '0' = some 0 := rfl
  have hvalue : code / 16 * 16 + code % 16 = code := Nat.div_add_mod' code 16
  have hoctets : octets ('0' :: '0' :: hexDigit (code / 16) :: hexDigit (code % 16) :: rest) =
      4 := by
    have hsize : ('0').utf8Size = 1 := rfl
    simp [octets, utf8Size_hexDigit _ hhigh, utf8Size_hexDigit _ hlow, hsize]
  rw [readUnit, hoctets]
  simp [hzero, hexDigit?_hexDigit _ hhigh, hexDigit?_hexDigit _ hlow, hvalue]

/-- An escaped character is read as its code. -/
theorem readCodes_escapeChar (c : Char) (fuel : Nat) (cs : List Char) :
    readCodes (fuel + 1) (escapeChar c ++ cs) = (readCodes fuel cs).map (c.toNat :: ·) := by
  unfold escapeChar
  split
  · next h => subst h; rfl
  split
  · next h => subst h; rfl
  split
  · next h => subst h; rfl
  split
  · next h => subst h; rfl
  split
  · next h => subst h; rfl
  split
  · next h => subst h; rfl
  split
  · next h => subst h; rfl
  split
  · next h =>
    simp only [List.cons_append, List.nil_append, readCodes, readEscape, readUnit_control h]
    rfl
  · next hquote hbackslash _ _ _ _ _ hcontrol =>
    simp only [List.cons_append, List.nil_append, readCodes, hquote, hbackslash, hcontrol,
      ↓reduceIte]

/-- The codes of a printed string are those of its characters. -/
theorem readCodes_printed (cs rest : List Char) {fuel : Nat} (h : cs.length < fuel) :
    readCodes fuel (cs.flatMap escapeChar ++ '"' :: rest) = .whole (cs.map Char.toNat) rest := by
  induction cs generalizing fuel with
  | nil =>
    obtain ⟨fuel, rfl⟩ := Nat.exists_eq_add_one_of_ne_zero (Nat.ne_zero_of_lt h)
    rfl
  | cons c more ih =>
    obtain ⟨fuel, rfl⟩ := Nat.exists_eq_add_one_of_ne_zero (Nat.ne_zero_of_lt h)
    rw [List.flatMap_cons, List.append_assoc, readCodes_escapeChar,
      ih (Nat.lt_of_succ_lt_succ h)]
    rfl

/-- No character is a surrogate, so codes of characters are joined as they are. -/
theorem joinSurrogates_map_toNat (cs : List Char) :
    joinSurrogates (cs.map Char.toNat) = some cs := by
  have hscalar (c : Char) : c.toNat < 0xD800 ∨ 0xDFFF < c.toNat := by
    have := c.valid
    simp only [UInt32.isValidChar, Nat.isValidChar] at this
    exact this.imp_right And.left
  induction cs with
  | nil => rfl
  | cons c rest ih =>
    have hc := hscalar c
    cases rest with
    | nil =>
      have hlone : ¬(0xD800 ≤ c.toNat ∧ c.toNat ≤ 0xDFFF) := by omega
      simp only [List.map_cons, List.map_nil, joinSurrogates, hlone, ↓reduceIte, Char.ofNat_toNat]
    | cons d more =>
      have hhigh : ¬(0xD800 ≤ c.toNat ∧ c.toNat ≤ 0xDBFF) := by omega
      have hlow : ¬(0xDC00 ≤ c.toNat ∧ c.toNat ≤ 0xDFFF) := by omega
      simp only [List.map_cons, joinSurrogates, hhigh, hlow, ↓reduceIte, Char.ofNat_toNat]
      rw [← List.map_cons, ih]
      rfl

/-- A string has no fewer characters once they are escaped. -/
theorem length_le_length_escaped (cs : List Char) : cs.length ≤ (cs.flatMap escapeChar).length := by
  have hchar (c : Char) : 1 ≤ (escapeChar c).length := by
    unfold escapeChar
    repeat' split
    all_goals simp
  induction cs with
  | nil => exact Nat.le_refl _
  | cons c rest ih =>
    have := hchar c
    simp only [List.flatMap_cons, List.length_append, List.length_cons]
    omega

/-- A string is read after its opening quote. -/
theorem readString_printed (s : String) (rest : List Char) :
    readString (s.toList.flatMap escapeChar ++ '"' :: rest) = .whole (some s) rest := by
  have hlength : s.toList.length < (s.toList.flatMap escapeChar ++ '"' :: rest).length + 1 := by
    have := length_le_length_escaped s.toList
    simp only [List.length_append, List.length_cons]
    omega
  rw [readString, readCodes_printed _ _ hlength]
  simp only [joinSurrogates_map_toNat, Option.map_some, String.ofList_toList]

/-! ## Values -/

mutual

/-- A value that is printed without loss: it is whole, its numbers are whole numbers of 64 bits, and
its strings and keys are texts. -/
def Printable : Json → Prop
  | .null | .bool _ => True
  | .number n => ∃ i : Int64, n = .ofInt i.toInt
  | .string s => s.isSome
  | .array items => AllPrintable items
  | .object members => AllMembersPrintable members
  | .absent | .torn _ _ => False

/-- A list of values that are printed without loss. -/
def AllPrintable : List Json → Prop
  | [] => True
  | j :: rest => j.Printable ∧ AllPrintable rest

/-- A list of members that are printed without loss. -/
def AllMembersPrintable : List (Json × Json) → Prop
  | [] => True
  | (key, j) :: rest => (∃ s, key = text s) ∧ j.Printable ∧ AllMembersPrintable rest

end

/-- Text that starts with no blank is not skipped. -/
theorem skipSpace_cons {c : Char} (h : isSpace c = false) (cs : List Char) :
    skipSpace (c :: cs) = c :: cs := by
  simp [skipSpace, h]

/-- A digit is none of the other characters. -/
theorem ne_of_isDigit {c d : Char} (hc : c.isDigit) (hd : d.isDigit = false) : c ≠ d := by
  rintro rfl
  simp [hd] at hc

/-- A digit is no blank. -/
theorem isSpace_of_isDigit {c : Char} (hc : c.isDigit) : isSpace c = false := by
  have hne (d : Char) (hd : d.isDigit = false) : c ≠ d := ne_of_isDigit hc hd
  simp only [isSpace, hne ' ' rfl, hne '\n' rfl, hne '\t' rfl, hne '\r' rfl, decide_false,
    Bool.or_false]

/-- A printed whole number is a sign, if it has one, and digits. -/
theorem print_ofInt (i : Int64) : (JsonNumber.ofInt i.toInt).print =
    (if i.toInt < 0 then ['-'] else []) ++ Nat.toDigits 10 i.toInt.natAbs := by
  simp [JsonNumber.print, JsonNumber.ofInt]

/-- A printed value starts with a character that is no blank and ends nothing. -/
theorem exists_printChars_eq {j : Json} (h : j.Printable) :
    ∃ c cs, j.printChars = c :: cs ∧ isSpace c = false ∧ c ≠ ']' := by
  cases j with
  | null => exact ⟨_, _, rfl, rfl, by decide⟩
  | bool b => cases b <;> exact ⟨_, _, rfl, rfl, by decide⟩
  | number n =>
    obtain ⟨i, rfl⟩ := h
    rw [printChars, print_ofInt]
    split
    · exact ⟨_, _, rfl, rfl, by decide⟩
    · obtain ⟨c, cs, hcs, hc⟩ := Number.exists_toDigits_eq i.toInt.natAbs
      exact ⟨c, cs, hcs, isSpace_of_isDigit hc, ne_of_isDigit hc rfl⟩
  | string s => exact ⟨_, _, rfl, rfl, by decide⟩
  | array items => exact ⟨_, _, rfl, rfl, by decide⟩
  | object members => exact ⟨_, _, rfl, rfl, by decide⟩
  | absent | torn => exact h.elim

/-- Two items or more are printed with a comma after the first. -/
theorem printItems_cons_cons (item next : Json) (more : List Json) :
    printItems (item :: next :: more) = item.printChars ++ ',' :: printItems (next :: more) := rfl

/-- Two members or more are printed with a comma after the first. -/
theorem printMembers_cons_cons (key j : Json) (next : Json × Json) (more : List (Json × Json)) :
    printMembers ((key, j) :: next :: more) =
      key.printChars ++ ':' :: j.printChars ++ ',' :: printMembers (next :: more) := rfl

/-- The printed items of an array that has any start as the first of them. -/
theorem exists_printItems_eq (item : Json) (more : List Json) (h : item.Printable) :
    ∃ c cs, printItems (item :: more) = c :: cs ∧ isSpace c = false ∧ c ≠ ']' := by
  obtain ⟨c, cs, hcs, hc⟩ := exists_printChars_eq h
  cases more with
  | nil => exact ⟨c, cs, hcs, hc⟩
  | cons next more =>
    refine ⟨c, cs ++ ',' :: printItems (next :: more), ?_, hc⟩
    rw [printItems_cons_cons, hcs, List.cons_append]

/-- The printed members of an object that has any start with a quote. -/
theorem exists_printMembers_eq (member : Json × Json) (more : List (Json × Json))
    (h : AllMembersPrintable (member :: more)) :
    ∃ cs, printMembers (member :: more) = '"' :: cs := by
  obtain ⟨key, j⟩ := member
  obtain ⟨s, rfl⟩ := h.1
  cases more <;> exact ⟨_, rfl⟩

/-- A printed whole number is read. -/
theorem readValue_number (i : Int64) (fuel : Nat) {rest : List Char} (hrest : MayFollow rest) :
    readValue (fuel + 1) ((JsonNumber.ofInt i.toInt).print ++ rest) =
      .whole (.number (.ofInt i.toInt)) rest := by
  have hread := readNumber_digits (decide (i.toInt < 0)) i.toInt.natAbs hrest
  have hvalue : (⟨decide (i.toInt < 0), Nat.toDigits 10 i.toInt.natAbs, [], []⟩ : JsonNumber) =
      .ofInt i.toInt := by simp [JsonNumber.ofInt]
  rw [hvalue] at hread
  rw [print_ofInt]
  by_cases hneg : i.toInt < 0
  · simp only [hneg, decide_true, ↓reduceIte, List.cons_append, List.nil_append] at hread ⊢
    rw [readValue, skipSpace_cons rfl]
    simp only [hread]
    rfl
  · simp only [hneg, decide_false, ↓reduceIte, List.nil_append] at hread ⊢
    obtain ⟨c, cs, hcs, hc⟩ := Number.exists_toDigits_eq i.toInt.natAbs
    rw [hcs, List.cons_append] at hread ⊢
    rw [readValue, skipSpace_cons (isSpace_of_isDigit hc)]
    -- the last case is that of numbers: no other value starts with a digit
    split
    case h_9 =>
      rename_i h
      obtain ⟨rfl, rfl⟩ := List.cons.inj h
      simp only [isDigit_eq, hc, ↓reduceIte, hread]
      rfl
    case h_1 => contradiction
    all_goals next h => exact absurd (List.cons.inj h).1 (ne_of_isDigit hc rfl)

mutual

/-- A printed value is read, whatever may follow it. -/
theorem readValue_printChars (j : Json) (h : j.Printable) (fuel : Nat)
    (hfuel : j.printChars.length < fuel) {rest : List Char} (hrest : MayFollow rest) :
    readValue fuel (j.printChars ++ rest) = .whole j rest := by
  obtain ⟨fuel, rfl⟩ := Nat.exists_eq_add_one_of_ne_zero (Nat.ne_zero_of_lt hfuel)
  cases j with
  | null => rfl
  | bool b => cases b <;> rfl
  | number n =>
    obtain ⟨i, rfl⟩ := h
    exact readValue_number i fuel hrest
  | string s =>
    obtain ⟨s, rfl⟩ := Option.isSome_iff_exists.mp h
    have hread := readString_printed s rest
    simp only [printChars, printString, Option.getD_some, List.cons_append, List.append_assoc,
      List.nil_append]
    rw [readValue, skipSpace_cons rfl]
    simp only [hread]
    rfl
  | array items =>
    cases items with
    | nil => rfl
    | cons item more =>
      have hlength : (printItems (item :: more)).length + 1 < fuel := by
        simp only [printChars, List.length_append, List.length_cons] at hfuel
        omega
      have hread := readItems_printItems (item :: more) (List.cons_ne_nil _ _) h fuel hlength
        rest
      obtain ⟨c, cs, hcs, hspace, hclose⟩ := exists_printItems_eq item more h.1
      rw [hcs, List.cons_append] at hread
      simp only [printChars, hcs, List.cons_append, List.append_assoc, List.nil_append]
      rw [readValue, skipSpace_cons rfl]
      simp only [skipSpace_cons hspace]
      split
      · contradiction
      · next h => exact absurd (List.cons.inj h).1 hclose
      · rw [hread]
        rfl
  | object members =>
    cases members with
    | nil => rfl
    | cons member more =>
      have hlength : (printMembers (member :: more)).length + 1 < fuel := by
        simp only [printChars, List.length_append, List.length_cons] at hfuel
        omega
      have hread := readMembers_printMembers (member :: more) (List.cons_ne_nil _ _) h fuel hlength
        rest
      obtain ⟨cs, hcs⟩ := exists_printMembers_eq member more h
      rw [hcs, List.cons_append] at hread
      simp only [printChars, hcs, List.cons_append, List.append_assoc, List.nil_append]
      rw [readValue, skipSpace_cons rfl]
      simp only [skipSpace_cons (c := '"') rfl]
      split
      · contradiction
      · next h => exact absurd (List.cons.inj h).1 (by decide)
      · rw [hread]
        rfl
  | absent | torn => exact h.elim

/-- The printed items of an array are read up to its closing bracket. -/
theorem readItems_printItems (items : List Json) (hne : items ≠ []) (h : AllPrintable items)
    (fuel : Nat) (hfuel : (printItems items).length + 1 < fuel) (rest : List Char) :
    readItems fuel (printItems items ++ ']' :: rest) = .whole items rest := by
  obtain ⟨fuel, rfl⟩ := Nat.exists_eq_add_one_of_ne_zero (Nat.ne_zero_of_lt hfuel)
  cases items with
  | nil => exact absurd rfl hne
  | cons item more =>
    cases more with
    | nil =>
      simp only [printItems] at hfuel
      have hread := readValue_printChars item h.1 fuel (by omega)
        (mayFollow_cons (.inr (.inl rfl)) rest)
      rw [readItems, printItems, hread]
      simp only [skipSpace_cons (c := ']') rfl]
    | cons next more =>
      obtain ⟨c, cs, hcs, -⟩ := exists_printChars_eq h.1
      have hlength := congrArg List.length hcs
      simp only [printItems_cons_cons, List.length_append, List.length_cons] at hfuel hlength
      have hitem := readValue_printChars item h.1 fuel (by omega)
        (mayFollow_cons (.inl rfl) (printItems (next :: more) ++ ']' :: rest))
      have hmore := readItems_printItems (next :: more) (List.cons_ne_nil _ _) h.2 fuel (by omega)
        rest
      rw [readItems, printItems_cons_cons, List.append_assoc, List.cons_append, hitem]
      simp only [skipSpace_cons (c := ',') rfl, hmore]
      rfl

/-- The printed members of an object are read up to its closing brace. -/
theorem readMembers_printMembers (members : List (Json × Json)) (hne : members ≠ [])
    (h : AllMembersPrintable members) (fuel : Nat)
    (hfuel : (printMembers members).length + 1 < fuel) (rest : List Char) :
    readMembers fuel (printMembers members ++ '}' :: rest) = .whole members rest := by
  obtain ⟨fuel, rfl⟩ := Nat.exists_eq_add_one_of_ne_zero (Nat.ne_zero_of_lt hfuel)
  cases members with
  | nil => exact absurd rfl hne
  | cons member more =>
    obtain ⟨key, j⟩ := member
    obtain ⟨⟨key, rfl⟩, hj, hmore⟩ := h
    cases more with
    | nil =>
      have hstring := readString_printed key (':' :: (j.printChars ++ '}' :: rest))
      simp only [printMembers, List.length_append, List.length_cons] at hfuel
      have hvalue := readValue_printChars j hj fuel (by omega)
        (mayFollow_cons (.inr (.inr rfl)) rest)
      simp only [printMembers, text, printChars, printString, Option.getD_some, List.cons_append,
        List.append_assoc, List.nil_append]
      rw [readMembers, skipSpace_cons rfl]
      simp only [hstring, skipSpace_cons (c := ':') rfl, hvalue, skipSpace_cons (c := '}') rfl]
    | cons next more =>
      have hstring := readString_printed key
        (':' :: (j.printChars ++ ',' :: (printMembers (next :: more) ++ '}' :: rest)))
      simp only [printMembers_cons_cons, List.length_append, List.length_cons] at hfuel
      have hvalue := readValue_printChars j hj fuel (by omega)
        (mayFollow_cons (.inl rfl) (printMembers (next :: more) ++ '}' :: rest))
      have hmore := readMembers_printMembers (next :: more) (List.cons_ne_nil _ _) hmore fuel
        (by omega) rest
      simp only [printMembers_cons_cons, text, printChars, printString, Option.getD_some,
        List.cons_append, List.append_assoc, List.nil_append]
      rw [readMembers, skipSpace_cons rfl]
      simp only [hstring, skipSpace_cons (c := ':') rfl, hvalue, skipSpace_cons (c := ',') rfl,
        hmore]
      rfl

end

/-- What is printed without loss is decoded as it was before. -/
theorem decodeText_print {α : Type} (decode : Json → Except JsonFault α) {j : Json}
    (h : j.Printable) : decodeText decode j.print = decode j := by
  have hchars : j.print.toList = j.printChars := String.toList_ofList
  have hend : MayFollow [] := fun _ hc => by cases hc
  have hread := readValue_printChars j h _ (Nat.lt_succ_self _) hend
  rw [List.append_nil] at hread
  rw [decodeText, hchars]
  simp only [hread]
  cases decode j <;> rfl

end Json

end GridAudit
