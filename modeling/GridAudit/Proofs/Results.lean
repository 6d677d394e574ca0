import Mathlib.Data.List.Forall2

/-!
# Opening results

What a result that is no failure says about the steps it was made of, and what a list says that was
collected without repeats, or whose members correspond to those of another.
-/

namespace GridAudit

variable {ε ε' α β γ : Type}

/-- A sequence of two steps succeeds when both do. -/
theorem bind_eq_ok {x : Except ε α} {f : α → Except ε β} {b : β} :
    x >>= f = .ok b ↔ ∃ a, x = .ok a ∧ f a = .ok b := by
  cases x with
  | error e => simp [bind, Except.bind]
  | ok a => simp [bind, Except.bind]

/-- A sequence of two steps fails when the first does, or the second after the first. -/
theorem bind_eq_error {x : Except ε α} {f : α → Except ε β} {e : ε} :
    x >>= f = .error e ↔ x = .error e ∨ ∃ a, x = .ok a ∧ f a = .error e := by
  cases x with
  | error cause => simp [bind, Except.bind]
  | ok a => simp [bind, Except.bind]

/-- Two steps, the second without the result of the first, succeed with what their results make when
both do. -/
theorem bind_bind_eq_ok {x : Except ε α} {y : Except ε β} {f : α → β → γ} {c : γ} :
    (do let a ← x; let b ← y; return f a b) = .ok c ↔
      ∃ a b, x = .ok a ∧ y = .ok b ∧ f a b = c := by
  simp only [bind_eq_ok, pure, Except.pure, Except.ok.injEq, exists_and_left]

/-- Sequences of two steps are the same when the first steps are and the second steps are the same
on what the first finds. -/
theorem bind_congr_ok {x y : Except ε α} {f g : α → Except ε β} (hxy : x = y)
    (hfg : ∀ a, y = .ok a → f a = g a) : x >>= f = y >>= g := by
  subst hxy
  cases x with
  | error e => rfl
  | ok a => exact hfg a rfl

/-- A step that only renames failures succeeds when the step does. -/
theorem mapError_eq_ok {x : Except ε α} {f : ε → ε'} {a : α} :
    x.mapError f = .ok a ↔ x = .ok a := by
  cases x with
  | error e => exact ⟨nofun, nofun⟩
  | ok b => exact ⟨fun h => congrArg _ (Except.ok.inj h), fun h => congrArg _ (Except.ok.inj h)⟩

/-- A walk over a list succeeds when every step does. -/
theorem mapM_eq_ok {f : α → Except ε β} {as : List α} {bs : List β} :
    as.mapM f = .ok bs ↔ List.Forall₂ (fun a b => f a = .ok b) as bs := by
  induction as generalizing bs with
  | nil => simp [pure, Except.pure, eq_comm]
  | cons a rest ih =>
    simp only [List.mapM_cons, bind_eq_ok, ih, List.forall₂_cons_left_iff, pure, Except.pure,
      Except.ok.injEq, exists_and_left]
    exact ⟨fun ⟨b, hb, more, hmore, h⟩ => ⟨b, hb, more, hmore, h.symm⟩,
      fun ⟨b, hb, more, hmore, h⟩ => ⟨b, hb, more, hmore, h.symm⟩⟩

/-- A successful walk over a list gives each result from some member. -/
theorem exists_of_mapM_eq_ok {f : α → Except ε β} {as : List α} {bs : List β}
    (h : as.mapM f = .ok bs) : ∀ b ∈ bs, ∃ a ∈ as, f a = .ok b := by
  induction mapM_eq_ok.mp h with
  | nil => simp
  | @cons a b _ _ hfirst hrest ih =>
    rw [List.forall_mem_cons]
    refine ⟨⟨a, List.mem_cons_self, hfirst⟩, fun c hc => ?_⟩
    obtain ⟨d, hd, hdc⟩ := ih (mapM_eq_ok.mpr hrest) c hc
    exact ⟨d, List.mem_cons_of_mem a hd, hdc⟩

/-- Collecting what is not there yet collects everything. -/
theorem mem_foldl_unless_contains [BEq β] [LawfulBEq β] {f : α → β} {as : List α} {kept : List β}
    {b : β} :
    b ∈ as.foldl (fun kept a => if kept.contains (f a) then kept else kept ++ [f a]) kept ↔
      b ∈ kept ∨ b ∈ as.map f := by
  induction as generalizing kept with
  | nil => simp
  | cons a rest ih =>
    rw [List.foldl_cons, ih, List.map_cons, List.mem_cons]
    by_cases ha : f a ∈ kept
    · simp only [List.contains_iff_mem, ha, ↓reduceIte]
      constructor
      · rintro (h | h) <;> simp [h]
      · rintro (h | rfl | h) <;> simp [*]
    · simp [ha, or_assoc]

/-- Lists of members on which two functions agree are mapped to one list. -/
theorem map_eq_map_of_forall₂ {γ : Type} {R : α → β → Prop} {f : α → γ} {g : β → γ} {as : List α}
    {bs : List β} (h : List.Forall₂ R as bs) (hfg : ∀ a b, R a b → f a = g b) :
    as.map f = bs.map g := by
  rw [← List.forall₂_eq_eq_eq, List.forall₂_map_left_iff, List.forall₂_map_right_iff]
  exact h.imp hfg

/-- What corresponds to members of a list can be followed to what corresponds to those of another,
when it can be followed for each. -/
theorem exists_forall₂_of_forall₂ {α' β' : Type} {R : α → α' → Prop} {S : α → β → Prop}
    {S' : α' → β' → Prop} {T : β → β' → Prop} {as : List α} {as' : List α'} {bs : List β}
    (hR : List.Forall₂ R as as') (hS : List.Forall₂ S as bs)
    (h : ∀ a a' b, R a a' → S a b → ∃ b', S' a' b' ∧ T b b') :
    ∃ bs', List.Forall₂ S' as' bs' ∧ List.Forall₂ T bs bs' := by
  induction hR generalizing bs with
  | nil =>
    cases hS
    exact ⟨[], .nil, .nil⟩
  | cons ha _ ih =>
    cases hS with
    | cons hb hrest =>
      obtain ⟨b', hb', hT⟩ := h _ _ _ ha hb
      obtain ⟨rest', hrest', hTs⟩ := ih hrest
      exact ⟨b' :: rest', .cons hb' hrest', .cons hT hTs⟩

end GridAudit
