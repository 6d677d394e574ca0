import GridAudit.Pattern.Reader

/-!
# Patterns within parentheses

A pattern that is read to its end is read alike when a closing parenthesis follows it, which is then
left over, unless the pattern ends within a comment: then whatever follows on the line belongs to
the comment. No reader looks at what comes after the text it takes except for the parenthesis that
ends a body, so this is shown of each reader, from what a spaced pattern ignores up to bodies.
-/

namespace GridAudit.Pattern

/-- What may be put after a pattern: nothing, or a parenthesis and perhaps a condition. -/
def Closing (suffix : List Char) : Prop := suffix = [] ∨ suffix = [')'] ∨ suffix = [')', '$']

/-- No other character than the parenthesis comes first in what is put after a pattern. -/
theorem Closing.exists_eq_cons {suffix cs rest : List Char} {c : Char} (h : Closing suffix)
    (hc : c ≠ ')') (heq : cs ++ suffix = c :: rest) : ∃ rest', cs = c :: rest' := by
  cases cs with
  | nil =>
    rcases h with rfl | rfl | rfl
    · contradiction
    · exact absurd (List.cons.inj heq).1.symm hc
    · exact absurd (List.cons.inj heq).1.symm hc
  | cons d cs => exact ⟨cs, by rw [(List.cons.inj heq).1]⟩

/-- A text that starts with another character does so whatever follows the first. -/
theorem cons_ne_of_cons_ne {c d : Char} {cs cs' rest' : List Char}
    (h : ∀ rest, c :: cs = d :: rest → False) : c :: cs' ≠ d :: rest' :=
  fun heq => h cs (congrArg (· :: cs) (List.cons.inj heq).1)

/-- What was read, with some text left over, is read again when more follows: that is left over too,
or nothing is, and then all that follows is passed over. -/
def ReadAgain {α : Type} (left : List Char → α) (rest : List Char) (result : List Char → Option α) :
    Prop :=
  (∀ suffix, Closing suffix → result suffix = some (left (rest ++ suffix))) ∨
    rest = [] ∧ ∀ suffix, Closing suffix → result suffix = some (left [])

namespace ReadAgain

variable {α β : Type} {left : List Char → α} {left' : List Char → β} {rest rest' : List Char}
  {result : List Char → Option α}

/-- What was read is read when nothing follows. -/
theorem of_nil (h : ReadAgain left rest result) : result [] = some (left rest) := by
  rcases h with h | ⟨rfl, h⟩
  · simpa using h [] (.inl rfl)
  · exact h [] (.inl rfl)

/-- When text is left over, what follows is left over too. -/
theorem of_ne_nil (h : ReadAgain left rest result) (hrest : rest ≠ []) {suffix : List Char}
    (hsuffix : Closing suffix) : result suffix = some (left (rest ++ suffix)) :=
  h.resolve_right (fun hnil => hrest hnil.1) suffix hsuffix

/-- What is read may be turned into something else. -/
theorem map (h : ReadAgain left rest result) (g : α → β) :
    ReadAgain (fun rest => g (left rest)) rest fun suffix => (result suffix).map g := by
  refine h.imp (fun h suffix hsuffix => ?_) fun ⟨hrest, h⟩ => ⟨hrest, fun suffix hsuffix => ?_⟩
  · simp only [h suffix hsuffix, Option.map_some]
  · simp only [h suffix hsuffix, Option.map_some]

/-- What is read next is read again with what is left over, when nothing is left of nothing. -/
theorem bind (h : ReadAgain left rest result) (next : α → Option β)
    (hnext : ReadAgain left' rest' fun suffix => next (left (rest ++ suffix)))
    (hnil : rest = [] → rest' = []) :
    ReadAgain left' rest' fun suffix => (result suffix).bind next := by
  rcases h with h | ⟨rfl, h⟩
  · refine hnext.imp (fun hnext suffix hsuffix => ?_)
      fun ⟨hrest', hnext⟩ => ⟨hrest', fun suffix hsuffix => ?_⟩
    · simp only [h suffix hsuffix, Option.bind_some, hnext suffix hsuffix]
    · simp only [h suffix hsuffix, Option.bind_some, hnext suffix hsuffix]
  · obtain rfl := hnil rfl
    refine .inr ⟨rfl, fun suffix hsuffix => ?_⟩
    simp only [h suffix hsuffix, Option.bind_some]
    exact hnext.of_nil

/-- Of results that are the same one may stand for the other. -/
theorem congr (h : ReadAgain left rest result) {result' : List Char → Option α}
    (hresult : ∀ suffix, Closing suffix → result' suffix = result suffix) :
    ReadAgain left rest result' := by
  refine h.imp (fun h suffix hsuffix => ?_) fun ⟨hrest, h⟩ => ⟨hrest, fun suffix hsuffix => ?_⟩
  · rw [hresult suffix hsuffix, h suffix hsuffix]
  · rw [hresult suffix hsuffix, h suffix hsuffix]

end ReadAgain

/-! ## What is ignored -/

/-- Whether what a spaced pattern ignores ends within a comment. -/
def leavesOpen (inComment : Bool) : List Char → Bool
  | [] => inComment
  | c :: rest =>
    if inComment then leavesOpen (c ≠ '\n') rest
    else if Text.isBlank c then leavesOpen false rest
    else if c = '#' then leavesOpen true rest
    else false

/-- Within a comment all that may follow is ignored, and otherwise nothing of it. -/
theorem skipIgnored_append {suffix : List Char} (h : Closing suffix) (inComment : Bool)
    (cs : List Char) : skipIgnored inComment (cs ++ suffix) =
      if leavesOpen inComment cs then [] else skipIgnored inComment cs ++ suffix := by
  induction cs generalizing inComment with
  | nil => rcases h with rfl | rfl | rfl <;> cases inComment <;> rfl
  | cons c rest ih =>
    simp only [List.cons_append, skipIgnored, leavesOpen, ih]
    split
    · rfl
    · split
      · rfl
      · split <;> rfl

/-- Nothing is left over within a comment. -/
theorem skipIgnored_of_leavesOpen {inComment : Bool} {cs : List Char}
    (h : leavesOpen inComment cs) : skipIgnored inComment cs = [] := by
  have happend := skipIgnored_append (.inl rfl) inComment cs
  simpa [h] using happend

/-- Blanks are ignored, within a comment or not. -/
theorem skipIgnored_of_blank {cs : List Char} (h : cs.dropWhile Text.isBlank = [])
    (inComment : Bool) : skipIgnored inComment cs = [] := by
  induction cs generalizing inComment with
  | nil => rfl
  | cons c rest ih =>
    by_cases hc : Text.isBlank c
    · simp [skipIgnored, hc, ih (by simpa [hc] using h)]
    · simp [hc] at h

/-- Blanks at the front are ignored. -/
theorem skipIgnored_dropWhile (cs : List Char) :
    skipIgnored false (cs.dropWhile Text.isBlank) = skipIgnored false cs := by
  induction cs with
  | nil => rfl
  | cons c rest ih =>
    by_cases hc : Text.isBlank c
    · simpa [skipIgnored, hc] using ih
    · simp [hc]

namespace Flags

variable {f : Flags} {cs rest : List Char} {kind : Char → Bool}

/-- What counts of a text counts when more follows. -/
theorem again_skip (f : Flags) (cs : List Char) :
    ReadAgain id (f.skip cs) fun suffix => some (f.skip (cs ++ suffix)) := by
  unfold skip
  split
  · by_cases hopen : leavesOpen false cs
    · refine .inr ⟨skipIgnored_of_leavesOpen hopen, fun suffix hsuffix => ?_⟩
      exact congrArg some ((skipIgnored_append hsuffix false cs).trans (if_pos hopen))
    · refine .inl fun suffix hsuffix => ?_
      exact congrArg some ((skipIgnored_append hsuffix false cs).trans (if_neg hopen))
  · exact .inl fun _ _ => rfl

/-- What counts of a text still counts when more follows, if anything does. -/
theorem skip_append (h : f.skip cs ≠ []) {suffix : List Char} (hsuffix : Closing suffix) :
    f.skip (cs ++ suffix) = f.skip cs ++ suffix :=
  Option.some.inj ((f.again_skip cs).of_ne_nil h hsuffix)

/-- The character that counts next counts next when more follows. -/
theorem skip_append_of_cons {c : Char} (h : f.skip cs = c :: rest) {suffix : List Char}
    (hsuffix : Closing suffix) : f.skip (cs ++ suffix) = c :: (rest ++ suffix) := by
  rw [skip_append (by simp [h]) hsuffix, h, List.cons_append]

/-- Nothing counts of nothing. -/
@[simp] theorem skip_nil (f : Flags) : f.skip [] = [] := by
  unfold skip
  split <;> rfl

/-- What is ignored makes a text no longer. -/
theorem length_skip_le (f : Flags) (cs : List Char) : (f.skip cs).length ≤ cs.length := by
  have hignored (inComment : Bool) : (skipIgnored inComment cs).length ≤ cs.length := by
    induction cs generalizing inComment with
    | nil => exact Nat.le_refl _
    | cons c rest ih =>
      simp only [skipIgnored, List.length_cons]
      split
      · exact Nat.le_succ_of_le (ih _)
      · split
        · exact Nat.le_succ_of_le (ih _)
        · split
          · exact Nat.le_succ_of_le (ih _)
          · exact Nat.le_refl _
  unfold skip
  split
  · exact hignored false
  · exact Nat.le_refl _

/-- Characters of one kind are taken to the same end with any bound that the text does not reach. -/
theorem word_congr {fuel fuel' : Nat} (h : cs.length ≤ fuel) (h' : cs.length ≤ fuel') :
    f.word kind fuel cs = f.word kind fuel' cs := by
  induction fuel generalizing fuel' cs with
  | zero =>
    obtain rfl := List.length_eq_zero_iff.mp (Nat.le_zero.mp h)
    cases fuel' <;> rfl
  | succ fuel ih =>
    cases cs with
    | nil => cases fuel' <;> rfl
    | cons c rest =>
      simp only [List.length_cons] at h h'
      obtain ⟨fuel', rfl⟩ : ∃ n, fuel' = n + 1 := Nat.exists_eq_succ_of_ne_zero (by omega)
      have hskip := f.length_skip_le rest
      have hmore : f.word kind fuel (f.skip rest) = f.word kind fuel' (f.skip rest) :=
        ih (by omega) (by omega)
      rw [word, word, hmore]

/-- What is read of what counts is read again when more follows. -/
theorem again_of_skip {α : Type} {left : List Char → α} (next : List Char → Option α)
    (h : ReadAgain left rest fun suffix => next (f.skip cs ++ suffix))
    (hnil : f.skip cs = [] → rest = []) :
    ReadAgain left rest fun suffix => next (f.skip (cs ++ suffix)) :=
  (f.again_skip cs).bind next h hnil

/-- When nothing counts, what is read is read again if it is read of any closing text that
counts. -/
theorem again_of_skip_eq_nil {α : Type} {left : List Char → α} {result : List Char → Option α}
    (hskip : f.skip cs = []) (h : ∀ suffix, Closing (f.skip (cs ++ suffix)) →
      result suffix = some (left (f.skip (cs ++ suffix)))) : ReadAgain left [] result := by
  refine (f.again_skip cs).imp (fun happend suffix hsuffix => ?_)
    fun ⟨_, hnone⟩ => ⟨rfl, fun suffix hsuffix => ?_⟩
  · have hcounted : f.skip (cs ++ suffix) = suffix := by simpa [hskip] using happend suffix hsuffix
    rw [h suffix (hcounted.symm ▸ hsuffix), hcounted, List.nil_append]
  · have hcounted : f.skip (cs ++ suffix) = [] := Option.some.inj (hnone suffix hsuffix)
    rw [h suffix (.inl hcounted), hcounted]

/-- Characters of one kind are taken again when more follows, if they end before the end of the
text, or at the bound, or with a kind that no parenthesis is of. -/
theorem again_word {fuel : Nat}
    (h : (f.word kind fuel cs).2 ≠ [] ∨ (f.word kind fuel cs).1.length = fuel ∨ !kind ')') :
    ReadAgain (Prod.mk (f.word kind fuel cs).1) (f.word kind fuel cs).2
      fun suffix => some (f.word kind fuel (cs ++ suffix)) := by
  induction fuel generalizing cs with
  | zero => exact .inl fun _ _ => rfl
  | succ fuel ih =>
    cases cs with
    | nil =>
      have hkind : kind ')' = false := by simpa [word] using h
      refine .inl fun suffix hsuffix => ?_
      rcases hsuffix with rfl | rfl | rfl <;> simp [word, hkind]
    | cons c rest =>
      simp only [List.cons_append, word]
      by_cases hc : kind c
      · simp only [word, hc, ↓reduceIte, List.length_cons, Nat.succ.injEq] at h ⊢
        have hnil (hskip : f.skip rest = []) : (f.word kind fuel (f.skip rest)).2 = [] := by
          rw [hskip]
          cases fuel <;> rfl
        exact (again_of_skip (some <| f.word kind fuel ·) (ih h) hnil).map
          fun taken => (c :: taken.1, taken.2)
      · simp only [hc, Bool.false_eq_true, ↓reduceIte]
        exact .inl fun _ _ => rfl

/-- All characters of one kind are taken again when more follows, if they end before the end of the
text or with a kind that no parenthesis is of. -/
theorem again_wordOf (h : (f.wordOf kind cs).2 ≠ [] ∨ !kind ')') :
    ReadAgain (Prod.mk (f.wordOf kind cs).1) (f.wordOf kind cs).2
      fun suffix => some (f.wordOf kind (cs ++ suffix)) := by
  have hfuel : f.wordOf kind cs = f.word kind (cs.length + 2) cs :=
    word_congr (Nat.le_refl _) (Nat.le_add_right ..)
  rw [hfuel] at h ⊢
  refine (again_word (h.imp_right .inr)).congr fun suffix hsuffix => ?_
  refine congrArg some (word_congr (Nat.le_refl _) ?_)
  rcases hsuffix with rfl | rfl | rfl <;> simp

/-- Characters of one kind that end before the end of the text are taken alike when more follows. -/
theorem wordOf_append {c : Char} {taken : List Char} (h : f.wordOf kind cs = (taken, c :: rest))
    {suffix : List Char} (hsuffix : Closing suffix) :
    f.wordOf kind (cs ++ suffix) = (taken, c :: (rest ++ suffix)) := by
  have hleft : (f.wordOf kind cs).2 ≠ [] := by simp [h]
  have hword := (f.again_wordOf (.inl hleft)).of_ne_nil hleft hsuffix
  rw [h] at hword
  exact Option.some.inj hword

/-- Characters of one kind that end before the end of what counts are taken alike when more
follows. -/
theorem wordOf_skip_append {c : Char} {taken : List Char}
    (h : f.wordOf kind (f.skip cs) = (taken, c :: rest)) {suffix : List Char}
    (hsuffix : Closing suffix) :
    f.wordOf kind (f.skip (cs ++ suffix)) = (taken, c :: (rest ++ suffix)) := by
  have hcs : f.skip cs ≠ [] := by
    intro hnil
    rw [hnil] at h
    exact absurd (congrArg Prod.snd h) nofun
  rw [skip_append hcs hsuffix, wordOf_append h hsuffix]

end Flags

/-! ## Atoms -/

section Atoms

variable {f : Flags} {cs rest suffix : List Char} {atom : Atom}

/-- Read the description of a property: a letter, or a name in braces. -/
def readDescription (f : Flags) (cs : List Char) : Option (List Char × List Char) :=
  match f.skip cs with
  | [] => none
  | '{' :: rest => match f.wordOf (· ≠ '}') (f.skip rest) with
    | (text, '}' :: rest) => some (text, rest)
    | _ => none
  | '\\' :: _ => none
  | c :: rest => some ([c], rest)

/-- The description of a property is read alike when more follows. -/
theorem readDescription_append {text : List Char} (h : readDescription f cs = some (text, rest))
    (hsuffix : Closing suffix) :
    readDescription f (cs ++ suffix) = some (text, rest ++ suffix) := by
  unfold readDescription at h ⊢
  cases hskip : f.skip cs with
  | nil => simp [hskip] at h
  | cons c more =>
    rw [hskip] at h
    rw [Flags.skip_append_of_cons hskip hsuffix]
    split at h
    case h_1 => contradiction
    case h_2 rest' heq =>
      obtain ⟨rfl, rfl⟩ := List.cons.inj heq
      split at h
      · next hword =>
        obtain ⟨rfl, rfl⟩ := h
        simp only [Flags.wordOf_skip_append hword hsuffix]
      · contradiction
    case h_3 => contradiction
    case h_4 hbrace hbackslash heq =>
      obtain ⟨rfl, rfl⟩ := List.cons.inj heq
      obtain ⟨rfl, rfl⟩ := h
      split
      case h_1 => contradiction
      case h_2 heq => exact (hbrace (List.cons.inj heq).1).elim
      case h_3 heq => exact (hbackslash (List.cons.inj heq).1).elim
      case h_4 heq =>
        obtain ⟨rfl, rfl⟩ := List.cons.inj heq
        rfl

/-- The set of characters that a property describes. -/
def propertySet (f : Flags) (negated : Bool) (text : List Char) : Option CharSet :=
  if !f.unicode then none
  else (Class.ofDescription? text).bind fun (set, unequal) =>
    f.negate (negated != unequal) (f.fold set)

/-- A property is the set of what its description says. -/
theorem readProperty_eq (f : Flags) (negated : Bool) (cs : List Char) :
    readProperty f negated cs = (readDescription f cs).bind fun (text, rest) =>
      (propertySet f negated text).map (.set ·, rest) := by
  have hset (text rest : List Char) : (if !f.unicode then none else do
        let (set, unequal) ← Class.ofDescription? text
        let set ← f.negate (negated != unequal) (f.fold set)
        some (.set set, rest)) = (propertySet f negated text).map (Atom.set ·, rest) := by
    unfold propertySet
    split
    · rfl
    · cases Class.ofDescription? text with
      | none => rfl
      | some described => exact Option.map_eq_bind.symm
  unfold readProperty readDescription
  simp only [hset]
  generalize f.skip cs = counted
  cases counted with
  | nil => rfl
  | cons c more =>
    by_cases hbrace : c = '{'
    · subst hbrace
      simp only
      generalize f.wordOf (· ≠ '}') (f.skip more) = word
      obtain ⟨text, _ | ⟨d, rest⟩⟩ := word
      · rfl
      · by_cases hclose : d = '}'
        · subst hclose
          rfl
        · simp [hclose]
    · by_cases hbackslash : c = '\\'
      · subst hbackslash
        rfl
      · simp

/-- A property is read alike when more follows. -/
theorem readProperty_append {negated : Bool} (h : readProperty f negated cs = some (atom, rest))
    (hsuffix : Closing suffix) :
    readProperty f negated (cs ++ suffix) = some (atom, rest ++ suffix) := by
  rw [readProperty_eq] at h ⊢
  obtain ⟨⟨text, rest'⟩, htext, h⟩ := Option.bind_eq_some_iff.mp h
  obtain ⟨set, hset, heq⟩ := Option.map_eq_some_iff.mp h
  obtain ⟨rfl, rfl⟩ := heq
  simp only [readDescription_append htext hsuffix, Option.bind_some, hset, Option.map_some]

/-- A boundary is read alike when more follows. -/
theorem readBoundary_append (h : readBoundary f cs = some (atom, rest)) (hsuffix : Closing suffix) :
    readBoundary f (cs ++ suffix) = some (atom, rest ++ suffix) := by
  cases cs with
  | nil =>
    obtain ⟨rfl, rfl⟩ := h
    rcases hsuffix with rfl | rfl | rfl <;> rfl
  | cons c inner =>
    by_cases hbrace : c = '{'
    · subst hbrace
      simp only [List.cons_append, readBoundary] at h ⊢
      cases hskip : f.skip inner with
      | nil => simp [hskip] at h
      | cons c more =>
        rw [hskip] at h
        rw [Flags.skip_append_of_cons hskip hsuffix]
        simp only at h ⊢
        split at h
        · next hname =>
          obtain ⟨rfl, rfl⟩ := h
          rw [if_pos hname]
          rfl
        · next hname =>
          rw [if_neg hname]
          split at h
          · next name rest' hword =>
            rw [← List.cons_append, Flags.wordOf_append hword hsuffix]
            simp only at h ⊢
            split at h <;> simp_all
          · simp at h
    · have hplain (inner : List Char) : readBoundary f (c :: inner) =
          some (.assertion (.boundary f.wordKind), c :: inner) := by
        simp [readBoundary, hbrace]
      rw [hplain] at h
      obtain ⟨rfl, rfl⟩ := h
      exact hplain (inner ++ suffix)

/-- The number of digits of a code point after its letter, where it does not stand in braces. -/
def hexCount (letter : Char) : Nat := if letter = 'x' then 2 else if letter = 'u' then 4 else 8

/-- The character of the digits that were taken, if there are as many as there must be. -/
def fixedHex (letter : Char) (taken : List Char × List Char) : AtomRead :=
  if taken.1.length = hexCount letter then
    (charOfCode? (hexValue taken.1)).map fun c => (.char c (letter = 'x'), taken.2)
  else none

/-- A code point that does not stand in braces has a fixed number of digits. -/
theorem readHex_eq_fixedHex {letter : Char} (h : ∀ more, f.skip cs ≠ '{' :: more) :
    readHex f letter cs = fixedHex letter (f.word isHexDigit (hexCount letter) (f.skip cs)) := by
  unfold readHex
  split
  · next more heq => exact absurd heq (h more)
  · rfl

/-- A code point is read again. -/
theorem again_readHex {letter : Char} (h : readHex f letter cs = some (atom, rest)) :
    ReadAgain (Prod.mk atom) rest fun suffix => readHex f letter (cs ++ suffix) := by
  by_cases hbrace : ∃ more, f.skip cs = '{' :: more
  · obtain ⟨more, hskip⟩ := hbrace
    refine .inl fun suffix hsuffix => ?_
    simp only [readHex, hskip, Flags.skip_append_of_cons hskip hsuffix] at h ⊢
    split at h
    · next digits rest' hword =>
      rw [Flags.wordOf_skip_append hword hsuffix]
      split at h
      · contradiction
      · next hdigits =>
        obtain ⟨c, hc, heq⟩ := Option.map_eq_some_iff.mp h
        obtain ⟨rfl, rfl⟩ := heq
        simp [hdigits, hc]
    · contradiction
  · have hplain : ∀ more, f.skip cs ≠ '{' :: more := not_exists.mp hbrace
    rw [readHex_eq_fixedHex hplain, fixedHex, Option.ite_none_right_eq_some] at h
    obtain ⟨hlength, h⟩ := h
    obtain ⟨c, hc, heq⟩ := Option.map_eq_some_iff.mp h
    obtain ⟨rfl, rfl⟩ := heq
    have hcs : f.skip cs ≠ [] := by
      intro hnil
      rw [hnil] at hlength
      simp only [hexCount] at hlength
      split at hlength
      · contradiction
      · split at hlength <;> contradiction
    have hword := Flags.again_word (.inr (.inl hlength))
    refine (hword.bind (fixedHex letter) (.inl fun suffix _ => ?_) id).congr
      fun suffix hsuffix => ?_
    · simp [fixedHex, hlength, hc]
    · rw [readHex_eq_fixedHex, Flags.skip_append hcs hsuffix]
      · rfl
      · intro more
        obtain ⟨d, cs', hcs'⟩ := List.exists_cons_of_ne_nil hcs
        rw [Flags.skip_append hcs hsuffix, hcs', List.cons_append]
        intro heq
        exact hplain cs' (by rw [hcs', (List.cons.inj heq).1])

/-- What follows a backslash is read again. -/
theorem again_readEscape (h : readEscape f cs = some (atom, rest)) :
    ReadAgain (Prod.mk atom) rest fun suffix => readEscape f (cs ++ suffix) := by
  cases cs with
  | nil => contradiction
  | cons c cs =>
    simp only [List.cons_append, readEscape] at h ⊢
    split at h
    case h_1 | h_2 | h_3 => exact again_readHex h
    case h_4 | h_5 => exact .inl fun suffix hsuffix => readProperty_append h hsuffix
    case h_20 => exact .inl fun suffix hsuffix => readBoundary_append h hsuffix
    all_goals
      refine .inl fun suffix _ => ?_
      simpa [Option.bind_eq_some_iff] using h

end Atoms

/-! ## Names -/

section Names

variable {mark : Char} {before : List Char}

/-- A text is dropped up to the first place of a mark. -/
theorem dropWhile_append_cons (h : mark ∉ before) (after : List Char) :
    (before ++ mark :: after).dropWhile (· ≠ mark) = mark :: after := by
  rw [List.dropWhile_append_of_pos (by grind), List.dropWhile_cons_of_neg (by simp)]

/-- A text is taken up to the first place of a mark. -/
theorem takeWhile_append_cons (h : mark ∉ before) (after : List Char) :
    (before ++ mark :: after).takeWhile (· ≠ mark) = before := by
  rw [List.takeWhile_append_of_pos (by grind), List.takeWhile_cons_of_neg (by simp),
    List.append_nil]

/-- A text without a mark is dropped. -/
theorem dropWhile_of_notMem (h : mark ∉ before) : before.dropWhile (· ≠ mark) = [] := by
  rw [← List.append_nil before, List.dropWhile_append_of_pos (by grind), List.dropWhile_nil]

variable {cs rest suffix : List Char}

/-- Read the name of an ASCII class up to its closing bracket. -/
def posixNamed (negated : Bool) (cs : List Char) : Option (Bool × CharSet × List Char) :=
  match cs.dropWhile (· ≠ ':') with
  | ':' :: ']' :: after =>
    (Class.posix? (String.ofList (cs.takeWhile (· ≠ ':')))).map (negated, ·, after)
  | _ => none

/-- The name of an ASCII class is read or not alike when more follows. -/
theorem posixNamed_append (hsuffix : Closing suffix) (negated : Bool) (cs : List Char) :
    posixNamed negated (cs ++ suffix) =
      (posixNamed negated cs).map fun (negated, members, rest) =>
        (negated, members, rest ++ suffix) := by
  unfold posixNamed
  by_cases hcolon : ':' ∈ cs
  · obtain ⟨before, after, rfl, hbefore⟩ := List.eq_append_cons_of_mem hcolon
    rw [List.append_assoc, List.cons_append, dropWhile_append_cons hbefore,
      dropWhile_append_cons hbefore, takeWhile_append_cons hbefore, takeWhile_append_cons hbefore]
    cases after with
    | nil => rcases hsuffix with rfl | rfl | rfl <;> rfl
    | cons c after =>
      by_cases hc : c = ']'
      · subst hc
        simp [Function.comp_def]
      · simp [hc]
  · have hnone : ':' ∉ cs ++ suffix := by
      rcases hsuffix with rfl | rfl | rfl <;> simp [hcolon]
    rw [dropWhile_of_notMem hcolon, dropWhile_of_notMem hnone]
    rfl

/-- Read the caret of a negated ASCII class. -/
def posixNegation (cs : List Char) : Bool × List Char :=
  match cs with
  | '^' :: rest => (true, rest)
  | rest => (false, rest)

/-- The caret of an ASCII class is read alike when more follows. -/
theorem posixNegation_append (hsuffix : Closing suffix) (cs : List Char) :
    posixNegation (cs ++ suffix) = ((posixNegation cs).1, (posixNegation cs).2 ++ suffix) := by
  cases cs with
  | nil => rcases hsuffix with rfl | rfl | rfl <;> rfl
  | cons c cs =>
    by_cases hcaret : c = '^'
    · subst hcaret
      rfl
    · simp [posixNegation, hcaret]

/-- Whether an ASCII class stands at the front, and which, is the same when more follows. -/
theorem readPosix_append (hsuffix : Closing suffix) (cs : List Char) :
    readPosix (cs ++ suffix) =
      (readPosix cs).map fun (negated, members, rest) => (negated, members, rest ++ suffix) := by
  have hname (cs : List Char) :
      readPosix (':' :: cs) = posixNamed (posixNegation cs).1 (posixNegation cs).2 := rfl
  cases cs with
  | nil => rcases hsuffix with rfl | rfl | rfl <;> rfl
  | cons c cs =>
    by_cases hc : c = ':'
    · subst hc
      rw [List.cons_append, hname, hname, posixNegation_append hsuffix,
        posixNamed_append hsuffix]
    · have hnone (rest : List Char) : readPosix (c :: rest) = none := by
        simp [readPosix, hc]
      rw [List.cons_append, hnone, hnone, Option.map_none]

/-- The name of a group is read alike when more follows. -/
theorem readName_append {name : String} (h : readName cs = some (name, rest)) (suffix : List Char) :
    readName (cs ++ suffix) = some (name, rest ++ suffix) := by
  unfold readName at h ⊢
  by_cases hangle : '>' ∈ cs
  · obtain ⟨before, after, rfl, hbefore⟩ := List.eq_append_cons_of_mem hangle
    rw [dropWhile_append_cons hbefore, takeWhile_append_cons hbefore] at h
    rw [List.append_assoc, List.cons_append, dropWhile_append_cons hbefore,
      takeWhile_append_cons hbefore]
    cases before with
    | nil => simp at h
    | cons first more => simp_all
  · rw [dropWhile_of_notMem hangle] at h
    simp at h

end Names

/-! ## Classes -/

section Classes

variable {f : Flags} {cs rest suffix : List Char}

/-- An atom of a class is read again. -/
theorem again_readClassAtom {atom : Atom} (h : readClassAtom f cs = some (atom, rest)) :
    ReadAgain (Prod.mk atom) rest fun suffix => readClassAtom f (cs ++ suffix) := by
  cases cs with
  | nil => contradiction
  | cons c cs =>
    by_cases hc : c = '\\'
    · subst hc
      exact again_readEscape h
    · have hplain (cs : List Char) : readClassAtom f (c :: cs) = some (.char c false, cs) := by
        simp [readClassAtom]
      rw [hplain] at h
      obtain ⟨rfl, rfl⟩ := h
      exact .inl fun suffix _ => hplain (_ ++ suffix)

/-- What stands beyond a hyphen in a spaced pattern, past blanks and one mark of a comment. -/
def beyond (cs : List Char) : List Char :=
  match cs.dropWhile Text.isBlank with
  | '#' :: more => more.dropWhile Text.isBlank
  | rest => rest

/-- What is dropped of a text is dropped when more follows, if some of the text is left. -/
theorem dropWhile_append_of_ne_nil {p : Char → Bool} (h : cs.dropWhile p ≠ [])
    (suffix : List Char) : (cs ++ suffix).dropWhile p = cs.dropWhile p ++ suffix := by
  rw [List.dropWhile_append, if_neg (by simpa using h)]

/-- What stands beyond a hyphen stands there when more follows. -/
theorem beyond_append (h : beyond cs ≠ []) (suffix : List Char) :
    beyond (cs ++ suffix) = beyond cs ++ suffix := by
  unfold beyond at h ⊢
  cases hdrop : cs.dropWhile Text.isBlank with
  | nil => simp [hdrop] at h
  | cons c more =>
    rw [dropWhile_append_of_ne_nil (by simp [hdrop]), hdrop, List.cons_append]
    by_cases hmark : c = '#'
    · subst hmark
      exact dropWhile_append_of_ne_nil (by simpa [hdrop] using h) suffix
    · simp [hmark]

/-- When nothing stands beyond a hyphen, what follows it is ignored and starts with a blank or with
the mark of a comment. -/
theorem skipIgnored_of_beyond (h : beyond cs = []) :
    skipIgnored false cs = [] ∧ ∀ c ∈ cs.head?, Text.isBlank c ∨ c = '#' := by
  have hhead : ∀ c ∈ cs.head?, Text.isBlank c ∨ (cs.dropWhile Text.isBlank).head? = some c := by
    cases cs with
    | nil => exact nofun
    | cons c rest =>
      by_cases hc : Text.isBlank c <;> simp [hc]
  rw [← skipIgnored_dropWhile]
  unfold beyond at h
  cases hdrop : cs.dropWhile Text.isBlank with
  | nil =>
    rw [hdrop] at hhead
    exact ⟨rfl, fun c hc => (hhead c hc).imp_right nofun⟩
  | cons c more =>
    by_cases hmark : c = '#'
    · subst hmark
      rw [hdrop] at h hhead
      refine ⟨skipIgnored_of_blank h true, fun c hc => (hhead c hc).imp_right fun heq => ?_⟩
      exact (Option.some.inj heq).symm
    · simp [hdrop, hmark] at h

/-- What stands beyond a hyphen is the same when more follows, if any of it counts or it ends a
range. -/
theorem lookBeyond_append
    (h : f.skip cs ≠ [] ∨ f.lookBeyond cs = some ']' ∨ f.lookBeyond cs = some '-')
    (suffix : List Char) : f.lookBeyond (cs ++ suffix) = f.lookBeyond cs := by
  by_cases hspaced : f.spaced
  · have hlook (cs : List Char) : f.lookBeyond cs = ((beyond cs).head? <|> cs.head?) := by
      simp only [Flags.lookBeyond, hspaced, beyond]
      rfl
    have hbeyond : beyond cs ≠ [] := by
      intro hnil
      obtain ⟨hskip, hhead⟩ := skipIgnored_of_beyond hnil
      rw [hlook, hnil] at h
      rcases h with h | h | h
      · exact h (by simp [Flags.skip, hspaced, hskip])
      · exact absurd (hhead ']' h) (by decide)
      · exact absurd (hhead '-' h) (by decide)
    rw [hlook, hlook, beyond_append hbeyond]
    obtain ⟨c, rest, hrest⟩ := List.exists_cons_of_ne_nil hbeyond
    simp [hrest]
  · have hcs : cs ≠ [] := by
      rintro rfl
      simp [Flags.lookBeyond, hspaced] at h
    obtain ⟨c, rest, rfl⟩ := List.exists_cons_of_ne_nil hcs
    simp [Flags.lookBeyond, hspaced]

/-- The set of a lone item of a class. -/
def loneItem (f : Flags) : Atom → Option CharSet
  | .char c _ => f.classChar c
  | .set members => some members
  | _ => none

/-- The set of a range of a class. -/
def rangeItem (f : Flags) : Atom → Atom → Option CharSet
  | .char a _, .char b _ =>
    if (f.classChar a).isSome && (f.classChar b).isSome && a ≤ b then
      some (CharSet.interval a.toNat b.toNat)
    else none
  | _, _ => none

/-- Read what follows the first atom of an item: the rest of a range, or nothing. -/
def readItemEnd (f : Flags) (first : Atom) : List Char → Option (CharSet × List Char)
  | [] => none
  | '-' :: after =>
    if f.lookBeyond after = some ']' || f.lookBeyond after = some '-' then
      (loneItem f first).map (·, '-' :: after)
    else
      (readClassAtom f (f.skip after)).bind fun (last, rest) =>
        (rangeItem f first last).map (·, rest)
  | rest => (loneItem f first).map (·, rest)

/-- An item of a class is an atom and the rest of a range, if it is one. -/
theorem readClassItem_eq (f : Flags) (cs : List Char) :
    readClassItem f cs =
      (readClassAtom f cs).bind fun (first, rest) => readItemEnd f first (f.skip rest) := by
  refine congrArg (Option.bind _) (funext fun (first, rest) => ?_)
  show _ = readItemEnd f first (f.skip rest)
  generalize hskip : f.skip rest = counted
  simp only [hskip]
  cases counted with
  | nil => rfl
  | cons c after =>
    by_cases hhyphen : c = '-'
    · subst hhyphen
      simp only [readItemEnd]
      split
      · cases first <;> rfl
      · refine congrArg (Option.bind _) (funext fun (last, rest) => ?_)
        cases first <;> cases last <;> simp [rangeItem, apply_ite (Option.map _)]
    · cases first <;> simp [hhyphen, readItemEnd, loneItem]

/-- The end of an item is read again. -/
theorem again_readItemEnd {first : Atom} {members : CharSet}
    (h : readItemEnd f first cs = some (members, rest)) :
    ReadAgain (Prod.mk members) rest fun suffix => readItemEnd f first (cs ++ suffix) := by
  cases cs with
  | nil => contradiction
  | cons c after =>
    by_cases hhyphen : c = '-'
    · subst hhyphen
      simp only [List.cons_append, readItemEnd] at h ⊢
      split at h
      · next hlook =>
        obtain ⟨lone, hlone, heq⟩ := Option.map_eq_some_iff.mp h
        obtain ⟨rfl, rfl⟩ := heq
        refine .inl fun suffix _ => ?_
        simp only [lookBeyond_append (.inr (by simpa using hlook)), hlook, ↓reduceIte, hlone,
          Option.map_some, List.cons_append]
      · next hlook =>
        obtain ⟨⟨last, rest'⟩, hlast, h⟩ := Option.bind_eq_some_iff.mp h
        obtain ⟨range, hrange, heq⟩ := Option.map_eq_some_iff.mp h
        obtain ⟨rfl, rfl⟩ := heq
        have hafter : f.skip after ≠ [] := by
          intro hnil
          simp [hnil, readClassAtom] at hlast
        refine ((again_readClassAtom hlast).bind
          (fun (last, rest) => (rangeItem f first last).map (·, rest)) ?_ id).congr ?_
        · refine .inl fun suffix _ => ?_
          simp only [hrange, Option.map_some]
        · intro suffix hsuffix
          simp only [lookBeyond_append (.inl hafter), hlook, Bool.false_eq_true, ↓reduceIte,
            Flags.skip_append hafter hsuffix]
    · have hlone (rest : List Char) :
          readItemEnd f first (c :: rest) = (loneItem f first).map (·, c :: rest) := by
        simp [readItemEnd, hhyphen]
      simp only [List.cons_append, hlone] at h ⊢
      obtain ⟨lone, hsome, heq⟩ := Option.map_eq_some_iff.mp h
      obtain ⟨rfl, rfl⟩ := heq
      exact .inl fun suffix _ => by simp only [hsome, Option.map_some, List.cons_append]

/-- An item of a class is read again. -/
theorem again_readClassItem {members : CharSet} (h : readClassItem f cs = some (members, rest)) :
    ReadAgain (Prod.mk members) rest fun suffix => readClassItem f (cs ++ suffix) := by
  simp only [readClassItem_eq] at h ⊢
  obtain ⟨⟨first, middle⟩, hfirst, h⟩ := Option.bind_eq_some_iff.mp h
  refine (again_readClassAtom hfirst).bind
    (fun (first, rest) => readItemEnd f first (f.skip rest)) ?_ ?_
  · refine Flags.again_of_skip (readItemEnd f first) (again_readItemEnd h) ?_
    intro hnil
    simp [hnil, readItemEnd] at h
  · rintro rfl
    simp [readItemEnd] at h

/-- The hyphens at the start of a class are read alike when more follows, if something does follow
them. -/
theorem readHyphens_append {fuel fuel' : Nat} {state : ClassState}
    (h : (readHyphens f fuel state cs).2 ≠ []) (hfuel : cs.length ≤ fuel)
    (hfuel' : cs.length ≤ fuel') (hsuffix : Closing suffix) :
    readHyphens f fuel' state (cs ++ suffix) =
      ((readHyphens f fuel state cs).1, (readHyphens f fuel state cs).2 ++ suffix) := by
  induction fuel generalizing fuel' state cs with
  | zero =>
    obtain rfl := List.length_eq_zero_iff.mp (Nat.le_zero.mp hfuel)
    contradiction
  | succ fuel ih =>
    cases cs with
    | nil => contradiction
    | cons c rest =>
      simp only [List.length_cons] at hfuel hfuel'
      obtain ⟨fuel', rfl⟩ : ∃ n, fuel' = n + 1 := Nat.exists_eq_succ_of_ne_zero (by omega)
      by_cases hhyphen : c = '-'
      · subst hhyphen
        simp only [List.cons_append, readHyphens] at h ⊢
        have hskip : f.skip rest ≠ [] := by
          intro hnil
          rw [hnil] at h
          cases fuel <;> contradiction
        have hlength := f.length_skip_le rest
        rw [Flags.skip_append hskip hsuffix]
        exact ih h (by omega) (by omega)
      · have hplain (fuel : Nat) (rest : List Char) :
            readHyphens f fuel state (c :: rest) = (state, c :: rest) := by
          cases fuel <;> simp [readHyphens, hhyphen]
        rw [List.cons_append, hplain, hplain, List.cons_append]

/-- Read the closing bracket that stands for itself at the start of a class. -/
def readBracket (f : Flags) (s : ClassState) (cs : List Char) : ClassState × List Char :=
  match cs with
  | ']' :: rest => if s.count = 0 then (s.add (CharSet.single ']') 0, f.skip rest) else (s, cs)
  | cs => (s, cs)

/-- The closing bracket at the start of a class is read alike when more follows, if something does
follow it. -/
theorem readBracket_append {s : ClassState} (hcs : cs ≠ []) (h : (readBracket f s cs).2 ≠ [])
    (hsuffix : Closing suffix) : readBracket f s (cs ++ suffix) =
      ((readBracket f s cs).1, (readBracket f s cs).2 ++ suffix) := by
  obtain ⟨c, rest, rfl⟩ := List.exists_cons_of_ne_nil hcs
  by_cases hbracket : c = ']'
  · subst hbracket
    simp only [List.cons_append, readBracket] at h ⊢
    split at h
    · next hcount => simp only [hcount, ↓reduceIte, Flags.skip_append h hsuffix]
    · next hcount => simp only [hcount, ↓reduceIte, List.cons_append]
  · simp [readBracket, hbracket]

/-- Read what stands for itself at the start of a class. -/
def readLiterals (f : Flags) (negated : Bool) (cs : List Char) :
    Option (Bool × ClassState × List Char) :=
  let hyphens := readHyphens f cs.length .initial cs
  let bracket := readBracket f hyphens.1 hyphens.2
  if bracket.2.isEmpty then none else some (negated, bracket.1, bracket.2)

/-- What stands for itself at the start of a class is read alike when more follows. -/
theorem readLiterals_append {negated negated' : Bool} {state : ClassState}
    (h : readLiterals f negated cs = some (negated', state, rest)) (hsuffix : Closing suffix) :
    readLiterals f negated (cs ++ suffix) = some (negated', state, rest ++ suffix) := by
  simp only [readLiterals] at h ⊢
  split at h
  · contradiction
  · next hbracket =>
    rw [List.isEmpty_iff] at hbracket
    have hhyphens : (readHyphens f cs.length .initial cs).2 ≠ [] := by
      intro hnil
      rw [hnil] at hbracket
      contradiction
    rw [readHyphens_append hhyphens (Nat.le_refl _) (by simp) hsuffix,
      readBracket_append hhyphens hbracket hsuffix]
    simp_all

/-- Read the caret of a negated class. -/
def readCaret (f : Flags) (cs : List Char) : Bool × List Char :=
  match f.skip cs with
  | '^' :: rest => (true, f.skip rest)
  | cs => (false, cs)

/-- The caret of a class is read alike when more follows, if something does follow it. -/
theorem readCaret_append (h : (readCaret f cs).2 ≠ []) (hsuffix : Closing suffix) :
    readCaret f (cs ++ suffix) = ((readCaret f cs).1, (readCaret f cs).2 ++ suffix) := by
  unfold readCaret at h ⊢
  cases hskip : f.skip cs with
  | nil =>
    rw [hskip] at h
    contradiction
  | cons c more =>
    rw [hskip] at h
    rw [Flags.skip_append_of_cons hskip hsuffix]
    by_cases hcaret : c = '^'
    · subst hcaret
      simp only at h ⊢
      rw [Flags.skip_append h hsuffix]
    · simp [hcaret]

/-- The opening of a class is read alike when more follows. -/
theorem openClass_append {negated : Bool} {state : ClassState}
    (h : openClass f cs = some (negated, state, rest)) (hsuffix : Closing suffix) :
    openClass f (cs ++ suffix) = some (negated, state, rest ++ suffix) := by
  have hopen (cs : List Char) :
      openClass f cs = readLiterals f (readCaret f cs).1 (readCaret f cs).2 := rfl
  rw [hopen] at h ⊢
  have hcaret : (readCaret f cs).2 ≠ [] := by
    intro hnil
    rw [hnil] at h
    contradiction
  rw [readCaret_append hcaret hsuffix]
  exact readLiterals_append h hsuffix

/-- A class is read alike when more follows. -/
theorem readClass_append {negated : Bool} {fuel fuel' : Nat} {state : ClassState}
    {members : CharSet} {depth : Nat}
    (h : readClass f negated fuel state cs = some (members, depth, rest))
    (hfuel : fuel ≤ fuel') (hsuffix : Closing suffix) :
    readClass f negated fuel' state (cs ++ suffix) = some (members, depth, rest ++ suffix) := by
  induction fuel generalizing negated fuel' state members depth cs rest with
  | zero => contradiction
  | succ fuel ih =>
    obtain ⟨fuel', rfl⟩ : ∃ n, fuel' = n + 1 := Nat.exists_eq_succ_of_ne_zero (by omega)
    have hfuel : fuel ≤ fuel' := Nat.le_of_succ_le_succ hfuel
    unfold readClass at h ⊢
    cases hskip : f.skip cs with
    | nil => simp [hskip] at h
    | cons c more =>
      rw [hskip] at h
      rw [Flags.skip_append_of_cons hskip hsuffix]
      split at h
      case h_1 => contradiction
      case h_2 rest' heq =>
        obtain ⟨rfl, rfl⟩ := List.cons.inj heq
        generalize state.result f = result at h ⊢
        obtain ⟨set, hset, heq⟩ := Option.map_eq_some_iff.mp h
        obtain ⟨rfl, rfl, rfl⟩ := heq
        simp only [hset, Option.map_some]
      case h_3 rest' heq =>
        obtain ⟨rfl, rfl⟩ := List.cons.inj heq
        simp only [readPosix_append hsuffix]
        cases hposix : readPosix more with
        | some named =>
          obtain ⟨negatedName, members', rest''⟩ := named
          simp only [hposix] at h
          obtain ⟨set, hset, h⟩ := Option.bind_eq_some_iff.mp h
          exact Option.bind_eq_some_iff.mpr ⟨set, hset, ih h hfuel⟩
        | none =>
          simp only [hposix] at h
          obtain ⟨⟨negatedInner, inner, rest₁⟩, hopen, h⟩ := Option.bind_eq_some_iff.mp h
          obtain ⟨⟨membersInner, depthInner, rest₂⟩, hinner, h⟩ := Option.bind_eq_some_iff.mp h
          refine Option.bind_eq_some_iff.mpr ⟨_, openClass_append hopen hsuffix, ?_⟩
          exact Option.bind_eq_some_iff.mpr ⟨_, ih hinner hfuel, ih h hfuel⟩
      case h_4 rest' heq | h_5 rest' heq | h_6 rest' heq =>
        obtain ⟨rfl, rfl⟩ := List.cons.inj heq
        exact ih h hfuel
      case h_7 hbracket hopen hamp hhyphen htilde =>
        obtain ⟨⟨item, rest'⟩, hitem, h⟩ := Option.bind_eq_some_iff.mp h
        have hrest' : rest' ≠ [] := by
          rintro rfl
          cases fuel <;> simp [readClass] at h
        have hagain := (again_readClassItem hitem).of_ne_nil hrest' hsuffix
        -- The last character and the parenthesis make no operator.
        split
        case h_1 => contradiction
        case h_2 heq => exact absurd heq (cons_ne_of_cons_ne hbracket)
        case h_3 heq => exact absurd heq (cons_ne_of_cons_ne hopen)
        case h_4 heq =>
          obtain ⟨rfl, htail⟩ := List.cons.inj heq
          obtain ⟨rest', rfl⟩ := hsuffix.exists_eq_cons (c := '&') (by decide) htail
          exact (hamp rest' rfl).elim
        case h_5 heq =>
          obtain ⟨rfl, htail⟩ := List.cons.inj heq
          obtain ⟨rest', rfl⟩ := hsuffix.exists_eq_cons (c := '-') (by decide) htail
          exact (hhyphen rest' rfl).elim
        case h_6 heq =>
          obtain ⟨rfl, htail⟩ := List.cons.inj heq
          obtain ⟨rest', rfl⟩ := hsuffix.exists_eq_cons (c := '~') (by decide) htail
          exact (htilde rest' rfl).elim
        case h_7 => exact Option.bind_eq_some_iff.mpr ⟨_, hagain, ih h hfuel⟩

end Classes

end GridAudit.Pattern
