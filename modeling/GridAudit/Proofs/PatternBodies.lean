import GridAudit.Proofs.PatternReading

/-!
# Bodies within parentheses

A body, too, is read alike when a closing parenthesis follows it, unless it ends within a comment.
So a pattern that is put between conditions, in a group that captures nothing, is read as that
pattern between these conditions, two levels deeper, or it is no pattern any more.
-/

namespace GridAudit.Pattern

/-! ## Groups and repetitions -/

section Groups

variable {f : Flags} {cs rest suffix : List Char}

/-- Flags are read alike when more follows. -/
theorem readFlags_append {seen : List Char} {on : Bool} {read : Flags × Char × List Char × Bool}
    (h : readFlags f seen on cs = some read) (suffix : List Char) :
    readFlags f seen on (cs ++ suffix) =
      some (read.1, read.2.1, read.2.2.1 ++ suffix, read.2.2.2) := by
  induction cs generalizing f seen on with
  | nil => contradiction
  | cons c cs ih =>
    simp only [List.cons_append, readFlags] at h ⊢
    split at h
    · next hclose =>
      rw [if_pos hclose]
      split at h
      · contradiction
      · next hhyphen =>
        obtain rfl := Option.some.inj h
        rw [if_neg hhyphen]
    · next hclose =>
      rw [if_neg hclose]
      split at h
      · contradiction
      · next hseen =>
        rw [if_neg hseen]
        split at h
        · next hhyphen =>
          rw [if_pos hhyphen]
          exact ih h
        · next hhyphen =>
          rw [if_neg hhyphen]
          cases hswitch : f.switch c on with
          | none => simp [hswitch] at h
          | some f' =>
            simp only [hswitch] at h ⊢
            exact ih h

/-- A count that something follows is read alike when more follows. -/
theorem readCount_append {count : Option Nat} {c : Char}
    (h : readCount f cs = some (count, c :: rest)) (hsuffix : Closing suffix) :
    readCount f (cs ++ suffix) = some (count, c :: (rest ++ suffix)) := by
  unfold readCount at h ⊢
  cases hword : f.wordOf (fun c => (Number.digit? c).isSome) (cs.dropWhile Text.isBlank) with
  | mk digits left =>
    simp only [hword] at h
    have hskip : f.skip (left.dropWhile Text.isBlank) = c :: rest := by
      split at h
      · exact (Prod.mk.inj (Option.some.inj h)).2
      · split at h
        · exact (Prod.mk.inj (Option.some.inj h)).2
        · contradiction
    have hblank : left.dropWhile Text.isBlank ≠ [] := by
      intro hnil
      rw [hnil, f.skip_nil] at hskip
      contradiction
    have hleft : left ≠ [] := by
      rintro rfl
      contradiction
    obtain ⟨d, left, rfl⟩ := List.exists_cons_of_ne_nil hleft
    have hcs : cs.dropWhile Text.isBlank ≠ [] := by
      intro hnil
      rw [hnil] at hword
      exact absurd (congrArg Prod.snd hword) nofun
    rw [dropWhile_append_of_ne_nil hcs, Flags.wordOf_append hword hsuffix]
    simp only
    rw [← List.cons_append, dropWhile_append_of_ne_nil hblank,
      Flags.skip_append_of_cons hskip hsuffix]
    rw [hskip] at h
    split at h
    · simp_all
    · simp_all

/-- Nothing is no count. -/
@[simp] theorem readCount_nil (f : Flags) : readCount f [] = some (none, []) := by
  simp [readCount, Flags.wordOf, Flags.word]
  rfl

/-- The bounds of a repetition are read alike when more follows. -/
theorem readBounds_append {least : Nat} {greatest : Option Nat}
    (h : readBounds f cs = some (least, greatest, rest)) (hsuffix : Closing suffix) :
    readBounds f (cs ++ suffix) = some (least, greatest, rest ++ suffix) := by
  unfold readBounds at h ⊢
  obtain ⟨⟨first, middle⟩, hfirst, h⟩ := Option.bind_eq_some_iff.mp h
  have hmiddle : middle ≠ [] := by
    rintro rfl
    contradiction
  obtain ⟨c, middle, rfl⟩ := List.exists_cons_of_ne_nil hmiddle
  have hcs : f.skip cs ≠ [] := by
    intro hnil
    simp [hnil] at hfirst
  rw [Flags.skip_append hcs hsuffix, readCount_append hfirst hsuffix]
  simp only [Option.bind_eq_bind, Option.bind_some] at h ⊢
  split at h
  · next rest' heq =>
    obtain ⟨rfl, rfl⟩ := List.cons.inj heq
    have hskip : f.skip middle ≠ [] := by
      intro hnil
      cases first <;> simp [hnil] at h
    simp only [Flags.skip_append hskip hsuffix]
    obtain ⟨c, last, hlast⟩ := List.exists_cons_of_ne_nil hskip
    simp only [hlast, List.cons_append] at h ⊢
    split at h
    · next rest' heq =>
      obtain ⟨rfl, rfl⟩ := List.cons.inj heq
      obtain ⟨n, rfl, heq⟩ := Option.bind_eq_some_iff.mp h
      obtain ⟨rfl, rfl, rfl⟩ := heq
      rfl
    · next hbrace =>
      obtain ⟨n, rfl, hgreatest⟩ := Option.bind_eq_some_iff.mp h
      obtain ⟨⟨second, left⟩, hsecond, hgreatest⟩ := Option.bind_eq_some_iff.mp hgreatest
      obtain ⟨m, rfl, hbounds⟩ := Option.bind_eq_some_iff.mp hgreatest
      split at hbounds
      · next rest' hleft =>
        obtain rfl : left = '}' :: rest' := hleft
        obtain ⟨hle, heq⟩ := Option.ite_none_right_eq_some.mp hbounds
        obtain ⟨rfl, rfl, rfl⟩ := heq
        have hsecond := readCount_append hsecond hsuffix
        rw [List.cons_append] at hsecond
        split
        · next heq => exact absurd heq (cons_ne_of_cons_ne hbrace)
        · simp only [Option.bind_some, hsecond, hle, ↓reduceIte]
      · contradiction
  · next rest' heq =>
    obtain ⟨rfl, rfl⟩ := List.cons.inj heq
    obtain ⟨n, rfl, heq⟩ := Option.bind_eq_some_iff.mp h
    obtain ⟨rfl, rfl, rfl⟩ := heq
    rfl
  · contradiction

/-- The mark of a repetition that prefers fewer is read alike when more follows. -/
theorem readLazy_append (hsuffix : Closing suffix) (cs : List Char) :
    readLazy (cs ++ suffix) = ((readLazy cs).1, (readLazy cs).2 ++ suffix) := by
  cases cs with
  | nil => rcases hsuffix with rfl | rfl | rfl <;> rfl
  | cons c cs =>
    by_cases hmark : c = '?'
    · subst hmark
      rfl
    · simp [readLazy, hmark]

/-- The opening of a group is read again. -/
theorem again_readOpening {s : Scope} {opening : Opening}
    (h : readOpening s cs = some (opening, rest)) :
    ReadAgain (Prod.mk opening) rest fun suffix => readOpening s (cs ++ suffix) := by
  unfold readOpening at h ⊢
  cases hskip : s.flags.skip cs with
  | nil =>
    rw [hskip] at h
    obtain ⟨opening', hcapture, heq⟩ := Option.map_eq_some_iff.mp h
    obtain ⟨rfl, rfl⟩ := heq
    refine Flags.again_of_skip_eq_nil hskip fun suffix hclosing => ?_
    generalize s.flags.skip (cs ++ suffix) = counted at hclosing
    rcases hclosing with rfl | rfl | rfl <;> simp [hcapture]
  | cons c more =>
    refine .inl fun suffix hsuffix => ?_
    rw [hskip] at h
    simp only [Flags.skip_append_of_cons hskip hsuffix]
    split at h
    · contradiction
    · contradiction
    · contradiction
    · contradiction
    · next rest' heq =>
      obtain ⟨rfl, rfl⟩ := List.cons.inj heq
      obtain ⟨⟨name, rest''⟩, hname, h⟩ := Option.bind_eq_some_iff.mp h
      obtain ⟨opening', hcapture, heq⟩ := Option.bind_eq_some_iff.mp h
      obtain ⟨rfl, rfl⟩ := heq
      exact Option.bind_eq_some_iff.mpr ⟨_, readName_append hname suffix,
        Option.bind_eq_some_iff.mpr ⟨_, hcapture, rfl⟩⟩
    · next rest' hequals hbang heq =>
      obtain ⟨rfl, rfl⟩ := List.cons.inj heq
      obtain ⟨⟨name, rest''⟩, hname, h⟩ := Option.bind_eq_some_iff.mp h
      obtain ⟨opening', hcapture, heq⟩ := Option.bind_eq_some_iff.mp h
      obtain ⟨rfl, rfl⟩ := heq
      cases rest' with
      | nil => contradiction
      | cons c rest' =>
        have happend := readName_append hname suffix
        simp_all
    · next rest' hequals hbang _ _ _ hangle heq =>
      obtain ⟨rfl, rfl⟩ := List.cons.inj heq
      cases more with
      | nil => contradiction
      | cons c rest' =>
        have hletter : c ≠ 'P' := by
          rintro rfl
          contradiction
        obtain ⟨read, hread, h⟩ := Option.bind_eq_some_iff.mp h
        have happend := readFlags_append hread suffix
        by_cases hclose : read.2.1 = ')'
        · by_cases hany : read.2.2.2 <;> simp_all
        · simp_all
    · obtain ⟨opening', hcapture, heq⟩ := Option.map_eq_some_iff.mp h
      obtain ⟨rfl, rfl⟩ := heq
      simp_all

/-- An atom is read again. -/
theorem again_readAtom {atom : Atom} (h : readAtom f cs = some (atom, rest)) :
    ReadAgain (Prod.mk atom) rest fun suffix => readAtom f (cs ++ suffix) := by
  cases cs with
  | nil => contradiction
  | cons c cs =>
    by_cases hc : c = '\\'
    · subst hc
      exact again_readEscape h
    · refine .inl fun suffix _ => ?_
      simp only [List.cons_append, readAtom] at h ⊢
      split at h <;> simp_all

end Groups

/-! ## Bodies -/

section Bodies

variable {cs rest suffix : List Char} {s : Scope} {b : Body}

/-- Nothing is left of nothing. -/
theorem rest_of_readBody_nil {fuel : Nat} {shape : Shape} {depth : Nat} {scope : Scope}
    (h : readBody fuel s b [] = some (shape, depth, scope, rest)) : rest = [] := by
  cases fuel with
  | zero => contradiction
  | succ fuel =>
    simp only [readBody, Flags.skip_nil] at h
    obtain ⟨-, -, -, rfl⟩ := h
    rfl

/-- What is read of a body: its shape and depth, the scope after it and what is left over. -/
abbrev BodyRead := Option (Shape × Nat × Scope × List Char)

/-- What one number of steps reads of a body another number reads again. -/
def BodyAgain (fuel fuel' : Nat) : Prop :=
  ∀ {s : Scope} {b : Body} {cs : List Char} {shape : Shape} {depth : Nat} {scope : Scope}
    {rest : List Char}, readBody fuel s b cs = some (shape, depth, scope, rest) →
    ReadAgain (fun rest => (shape, depth, scope, rest)) rest
      fun suffix => readBody fuel' s b (cs ++ suffix)

/-- Read a body after the opening of a group. -/
def readOpened (fuel : Nat) (s : Scope) (b : Body) (opening : Opening) (rest : List Char) :
    BodyRead :=
  match opening with
  | .switch s => readBody fuel s { b with pieces := .switch :: b.pieces } rest
  | .group index inner => do
    let (shape, depth, inner, rest) ← readBody fuel inner .initial rest
    let shape := match index with
      | some i => .group i shape
      | none => shape
    match rest with
    | ')' :: rest => readBody fuel { inner with flags := s.flags } (b.push shape (depth + 1)) rest
    | _ => none

/-- Read a body from a repetition on. -/
def readRepeated (fuel : Nat) (s : Scope) (b : Body) (least : Nat) (greatest : Option Nat)
    (cs : List Char) : BodyRead :=
  (b.repeatLast s.flags least greatest (readLazy cs).1).bind fun b =>
    readBody fuel s b (readLazy cs).2

variable {fuel fuel' : Nat} {shape : Shape} {depth : Nat} {scope : Scope}

/-- A body is read again after the opening of a group. -/
theorem again_readOpened (ih : BodyAgain fuel fuel') {opening : Opening}
    (h : readOpened fuel s b opening cs = some (shape, depth, scope, rest)) :
    ReadAgain (fun rest => (shape, depth, scope, rest)) rest
      fun suffix => readOpened fuel' s b opening (cs ++ suffix) := by
  cases opening with
  | switch s' => exact ih h
  | group index inner =>
    obtain ⟨⟨shape', depth', inner', rest'⟩, hinner, h⟩ := Option.bind_eq_some_iff.mp h
    simp only at h
    split at h
    · exact (ih hinner).bind _ (ih h) nofun
    · contradiction

/-- A body is read again from a repetition on. -/
theorem again_readRepeated (ih : BodyAgain fuel fuel') {least : Nat} {greatest : Option Nat}
    (h : readRepeated fuel s b least greatest cs = some (shape, depth, scope, rest)) :
    ReadAgain (fun rest => (shape, depth, scope, rest)) rest
      fun suffix => readRepeated fuel' s b least greatest (cs ++ suffix) := by
  obtain ⟨b', hrepeat, h⟩ := Option.bind_eq_some_iff.mp h
  refine (ih h).congr fun suffix hsuffix => ?_
  rw [readRepeated, readLazy_append hsuffix, hrepeat]
  rfl

/-- Nothing is left of nothing after the opening of a group. -/
theorem rest_of_readOpened_nil {opening : Opening}
    (h : readOpened fuel s b opening [] = some (shape, depth, scope, rest)) : rest = [] := by
  cases opening with
  | switch s' => exact rest_of_readBody_nil h
  | group index inner =>
    obtain ⟨⟨shape', depth', inner', rest'⟩, hinner, h⟩ := Option.bind_eq_some_iff.mp h
    obtain rfl := rest_of_readBody_nil hinner
    contradiction

/-- Nothing is left of nothing from a repetition on. -/
theorem rest_of_readRepeated_nil {least : Nat} {greatest : Option Nat}
    (h : readRepeated fuel s b least greatest [] = some (shape, depth, scope, rest)) :
    rest = [] := by
  obtain ⟨b', -, h⟩ := Option.bind_eq_some_iff.mp h
  exact rest_of_readBody_nil h

/-- A body is read again. -/
theorem again_readBody (hfuel : fuel ≤ fuel') : BodyAgain fuel fuel' := by
  induction fuel generalizing fuel' with
  | zero => exact nofun
  | succ fuel ih =>
    obtain ⟨fuel', rfl⟩ : ∃ n, fuel' = n + 1 := Nat.exists_eq_succ_of_ne_zero (by omega)
    have ih : BodyAgain fuel fuel' := ih (Nat.le_of_succ_le_succ hfuel)
    intro s b cs shape depth scope rest h
    simp only [readBody] at h
    cases hskip : s.flags.skip cs with
    | nil =>
      rw [hskip] at h
      obtain ⟨rfl, rfl, rfl, rfl⟩ :
          b.finish.1 = shape ∧ b.finish.2 = depth ∧ s = scope ∧ [] = rest := by simpa using h
      -- A body that ends with the text ends before a parenthesis, or else in a comment.
      refine Flags.again_of_skip_eq_nil hskip fun suffix hclosing => ?_
      simp only [readBody]
      generalize s.flags.skip (cs ++ suffix) = counted at hclosing
      rcases hclosing with rfl | rfl | rfl <;> rfl
    | cons c more =>
      rw [hskip] at h
      have hread suffix (hsuffix : Closing suffix) := Flags.skip_append_of_cons hskip hsuffix
      split at h
      case h_1 => contradiction
      case h_2 rest' heq =>
        obtain ⟨rfl, rfl⟩ := List.cons.inj heq
        obtain ⟨rfl, rfl, rfl, rfl⟩ :
            b.finish.1 = shape ∧ b.finish.2 = depth ∧ s = scope ∧ _ = rest := by simpa using h
        refine .inl fun suffix hsuffix => ?_
        simp only [readBody, hread suffix hsuffix]
        rfl
      case h_3 rest' heq =>
        obtain ⟨rfl, rfl⟩ := List.cons.inj heq
        refine (ih h).congr fun suffix hsuffix => ?_
        simp only [readBody, hread suffix hsuffix]
      case h_4 rest' heq =>
        obtain ⟨rfl, rfl⟩ := List.cons.inj heq
        obtain ⟨⟨opening, rest₁⟩, hopening, h⟩ := Option.bind_eq_some_iff.mp h
        refine ((again_readOpening hopening).bind (fun read =>
          readOpened fuel' s b read.1 read.2) (again_readOpened ih h) ?_).congr
          fun suffix hsuffix => ?_
        · rintro rfl
          exact rest_of_readOpened_nil h
        · simp only [readBody, hread suffix hsuffix]
          rfl
      case h_5 rest' heq =>
        obtain ⟨rfl, rfl⟩ := List.cons.inj heq
        obtain ⟨⟨negated, state, rest₁⟩, hopen, h⟩ := Option.bind_eq_some_iff.mp h
        obtain ⟨⟨members, depth, rest₂⟩, hclass, h⟩ := Option.bind_eq_some_iff.mp h
        refine (ih h).congr fun suffix hsuffix => ?_
        have hmore : readClass s.flags negated (rest₁ ++ suffix).length state (rest₁ ++ suffix) =
            some (members, depth, rest₂ ++ suffix) :=
          readClass_append hclass (by simp) hsuffix
        simp only [readBody, hread suffix hsuffix, openClass_append hopen hsuffix,
          Option.bind_eq_bind, Option.bind_some, hmore]
      case h_6 rest' heq =>
        obtain ⟨rfl, rfl⟩ := List.cons.inj heq
        obtain ⟨⟨least, greatest, rest₁⟩, hbounds, h⟩ := Option.bind_eq_some_iff.mp h
        refine (Flags.again_of_skip (readRepeated fuel' s b least greatest)
          (again_readRepeated ih h) ?_).congr fun suffix hsuffix => ?_
        · intro hnil
          simp only [hnil] at h
          exact rest_of_readRepeated_nil h
        · simp only [readBody, hread suffix hsuffix, readBounds_append hbounds hsuffix,
            Option.bind_eq_bind, Option.bind_some]
          rfl
      case h_7 rest' heq | h_8 rest' heq | h_9 rest' heq =>
        obtain ⟨rfl, rfl⟩ := List.cons.inj heq
        refine (again_readRepeated ih h).congr fun suffix hsuffix => ?_
        simp only [readBody, hread suffix hsuffix]
        rfl
      case h_10 hnil hclose hbar hopen hbracket hbrace hoption hstar hplus =>
        -- The first character is still there, so no other case applies when more follows.
        obtain ⟨⟨atom, rest'⟩, hatom, h⟩ := Option.bind_eq_some_iff.mp h
        obtain ⟨shape', hshape, h⟩ := Option.bind_eq_some_iff.mp h
        refine ((again_readAtom hatom).bind (fun read =>
          (read.1.shape s.flags).bind fun shape => readBody fuel' s (b.push shape 0) read.2)
          ?_ ?_).congr fun suffix hsuffix => ?_
        · simpa only [hshape, Option.bind_some] using ih h
        · rintro rfl
          exact rest_of_readBody_nil h
        · simp only [readBody, hread suffix hsuffix]
          split
          case h_1 => contradiction
          case h_2 heq => exact absurd heq (cons_ne_of_cons_ne hclose)
          case h_3 heq => exact absurd heq (cons_ne_of_cons_ne hbar)
          case h_4 heq => exact absurd heq (cons_ne_of_cons_ne hopen)
          case h_5 heq => exact absurd heq (cons_ne_of_cons_ne hbracket)
          case h_6 heq => exact absurd heq (cons_ne_of_cons_ne hbrace)
          case h_7 heq => exact absurd heq (cons_ne_of_cons_ne hoption)
          case h_8 heq => exact absurd heq (cons_ne_of_cons_ne hstar)
          case h_9 heq => exact absurd heq (cons_ne_of_cons_ne hplus)
          case h_10 => rfl

/-- What is read in some number of steps is read in more. -/
theorem readBody_mono (h : readBody fuel s b cs = some (shape, depth, scope, rest))
    (hfuel : fuel ≤ fuel') : readBody fuel' s b cs = some (shape, depth, scope, rest) := by
  simpa using (again_readBody hfuel h).of_nil

end Bodies

/-! ## Whole patterns -/

section Whole

variable {p : String} {shape : Shape} {depth : Nat} {scope : Scope}

/-- Nothing of a pattern read yet. -/
def Scope.initial : Scope := ⟨.initial, 0, []⟩

/-- Read the whole of a text as a body, however large or deeply nested: its shape and depth, and the
scope after it. -/
def body? (text : String) : Option (Shape × Nat × Scope) :=
  match readBody (text.toList.length + 1) .initial .initial text.toList with
  | some (shape, depth, scope, []) => some (shape, depth, scope)
  | _ => none

/-- A text reads as a body when nothing of it is left over. -/
theorem body?_eq_some {text : String} : body? text = some (shape, depth, scope) ↔
    readBody (text.toList.length + 1) .initial .initial text.toList =
      some (shape, depth, scope, []) := by
  unfold body?
  split <;> simp_all

/-- A pattern is a body within the limits. -/
theorem Source.parse?_eq_some {text : String} {source : Source} :
    Source.parse? text = some source ↔
      ∃ depth scope, body? text = some (source.shape, depth, scope) ∧ scope.names = source.names ∧
        depth ≤ depthLimit ∧ source.shape.size ≤ Shape.sizeLimit := by
  simp only [body?_eq_some]
  unfold Source.parse?
  change (readBody _ .initial .initial _).bind _ = _ ↔ _
  constructor
  · intro h
    obtain ⟨⟨shape, depth, scope, rest⟩, hread, h⟩ := Option.bind_eq_some_iff.mp h
    simp only [Option.ite_none_right_eq_some, Bool.and_eq_true, List.isEmpty_iff,
      decide_eq_true_eq] at h
    obtain ⟨⟨⟨rfl, hdepth⟩, hsize⟩, heq⟩ := h
    obtain rfl := Option.some.inj heq
    exact ⟨depth, scope, hread, rfl, hdepth, hsize⟩
  · rintro ⟨depth, scope, hread, hnames, hdepth, hsize⟩
    refine Option.bind_eq_some_iff.mpr ⟨_, hread, ?_⟩
    simp [hdepth, hsize, hnames]

/-- The shape that a pattern has between the start and the end of the text. -/
def Shape.between (shape : Shape) : Shape :=
  .sequence (.assertion .start) (.sequence shape (.assertion .finish))

/-- After the condition of the start comes a group that captures nothing. -/
theorem readBody_opened (fuel : Nat) (cs : List Char) :
    readBody (fuel + 2) .initial .initial ('^' :: '(' :: '?' :: ':' :: cs) =
      readOpened fuel .initial (Body.initial.push (.assertion .start) 0) (.group none .initial)
        cs :=
  rfl

/-- A body that its group closes is read up to the condition of the end. -/
theorem readOpened_of_closed {fuel : Nat} {cs : List Char}
    (h : readBody (fuel + 2) .initial .initial cs = some (shape, depth, scope, [')', '$'])) :
    readOpened (fuel + 2) .initial (Body.initial.push (.assertion .start) 0) (.group none .initial)
      cs = some (shape.between, depth + 2, { scope with flags := .initial }, []) := by
  have hfinish (s : Scope) (b : Body) : readBody (fuel + 2) { s with flags := .initial } b ['$'] =
      some ((b.push (.assertion .finish) 0).finish.1, (b.push (.assertion .finish) 0).finish.2,
        { s with flags := .initial }, []) := rfl
  simp only [readOpened, h, Option.bind_eq_bind, Option.bind_some]
  refine (hfinish scope _).trans ?_
  simp [Body.finish, Body.branch, Body.push, Body.initial, Shape.between, Shape.sequenceOf]

/-- Between the start and the end of the text a body is read as it is by itself, unless it takes the
closing parenthesis for its own, and then there is no end to the group. -/
theorem body?_between (h : body? p = some (shape, depth, scope)) :
    body? (p ++ ")") = none ∧ body? ("^(?:" ++ p ++ ")$") =
        some (shape.between, depth + 2, { scope with flags := .initial }) ∨
      body? (p ++ ")") = some (shape, depth, scope) ∧ body? ("^(?:" ++ p ++ ")$") = none := by
  have hafter : readBody ((p ++ ")").toList.length + 1) .initial .initial (p ++ ")").toList =
      readBody (p.toList.length + 2) .initial .initial (p.toList ++ [')']) := by simp
  have hbetween : readBody (("^(?:" ++ p ++ ")$").toList.length + 1) .initial .initial
      ("^(?:" ++ p ++ ")$").toList = readOpened (p.toList.length + 5) .initial
        (Body.initial.push (.assertion .start) 0) (.group none .initial)
        (p.toList ++ [')', '$']) := by
    simpa using readBody_opened (p.toList.length + 5) (p.toList ++ [')', '$'])
  simp only [Option.eq_none_iff_forall_ne_some, ne_eq, Prod.forall, body?_eq_some, hafter,
    hbetween] at h ⊢
  -- Both texts are read by more steps than `p` alone, which is read again with either suffix.
  rcases again_readBody (Nat.le_succ _) h with hclosed | ⟨-, hopen⟩
  · have hparen : readBody (p.toList.length + 2) .initial .initial (p.toList ++ [')']) =
        some (shape, depth, scope, [')']) := hclosed _ (.inr (.inl rfl))
    have hwhole := readBody_mono (hclosed _ (.inr (.inr rfl))) (Nat.le_add_right _ 3)
    exact .inl ⟨by simp [hparen], readOpened_of_closed hwhole⟩
  · have hparen : readBody (p.toList.length + 2) .initial .initial (p.toList ++ [')']) =
        some (shape, depth, scope, []) := hopen _ (.inr (.inl rfl))
    have hwhole := readBody_mono (hopen _ (.inr (.inr rfl))) (Nat.le_add_right _ 3)
    exact .inr ⟨hparen, by simp [readOpened, hwhole]⟩

/-- How deeply the parts of a text are nested when it is read as a body. -/
def depth? (text : String) : Option Nat := (body? text).map (·.2.1)

/-- What lets a pattern stand between the start and the end of the text: it leaves a closing
parenthesis over, and the limits have room for what is put around it. -/
structure Fits (p : String) (source : Source) : Prop where
  closes : Source.parse? (p ++ ")") = none
  depth : ∀ d ∈ depth? p, d + 2 ≤ depthLimit
  size : source.shape.size + 64 ≤ Shape.sizeLimit

/-- The conditions around a shape take room for both. -/
theorem Shape.size_between (shape : Shape) : shape.between.size = shape.size + 64 := by
  simp only [between, size]
  omega

/-- Between the start and the end of the text a pattern that fits is a pattern, that of its shape
between the two conditions, and no other is. -/
theorem Source.parse?_between {source whole : Source} (h : Source.parse? p = some source) :
    Source.parse? ("^(?:" ++ p ++ ")$") = some whole ↔
      Fits p source ∧ whole = ⟨source.shape.between, source.names⟩ := by
  obtain ⟨depth, scope, hbody, hnames, hdepth, hsize⟩ := parse?_eq_some.mp h
  rcases body?_between hbody with ⟨hparen, hbetween⟩ | ⟨hparen, hbetween⟩
  · have hcloses : Source.parse? (p ++ ")") = none := by
      refine Option.eq_none_iff_forall_ne_some.mpr fun other hother => ?_
      obtain ⟨_, _, hbody', -⟩ := parse?_eq_some.mp hother
      rw [hparen] at hbody'
      contradiction
    have hfits : Fits p source ↔
        depth + 2 ≤ depthLimit ∧ source.shape.size + 64 ≤ Shape.sizeLimit :=
      ⟨fun h => ⟨h.depth depth (by simp [depth?, hbody]), h.size⟩,
        fun h => ⟨hcloses, by simpa [depth?, hbody] using h.1, h.2⟩⟩
    obtain ⟨shape, names⟩ := whole
    simp only [parse?_eq_some, hbetween, Option.some.injEq, Prod.mk.injEq, hfits, mk.injEq]
    constructor
    · rintro ⟨_, _, ⟨rfl, rfl, rfl⟩, rfl, hdepth, hsize⟩
      rw [Shape.size_between] at hsize
      exact ⟨⟨hdepth, hsize⟩, rfl, hnames⟩
    · rintro ⟨⟨hdepth, hsize⟩, rfl, rfl⟩
      refine ⟨_, _, ⟨rfl, rfl, rfl⟩, hnames, hdepth, ?_⟩
      rwa [Shape.size_between]
  · have hopen : Source.parse? (p ++ ")") = some source :=
      parse?_eq_some.mpr ⟨depth, scope, hparen, hnames, hdepth, hsize⟩
    constructor
    · intro hwhole
      obtain ⟨_, _, hbody', -⟩ := parse?_eq_some.mp hwhole
      rw [hbetween] at hbody'
      contradiction
    · rintro ⟨hfits, -⟩
      have hcloses := hfits.closes
      rw [hopen] at hcloses
      contradiction

end Whole

end GridAudit.Pattern
