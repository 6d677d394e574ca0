import GridAudit.Pattern.Program

/-!
# Programs go along what their patterns span

Which parts of a text a shape spans is said on the shape alone, without regard to preference. Each
piece of a program that a shape compiles to leads from its entry to the place where the match goes
on just along what the shape spans. The pieces are put in front of code that stays as it is, but for
a loop, which is entered again where its body ends: there the code first holds a stop and gets its
parting last.
-/

namespace GridAudit.Pattern

/-! ## What shapes span -/

/-- The character before a position in a text. -/
def charBefore (text : List Char) : Nat → Option Char
  | 0 => none
  | i + 1 => text[i]?

/-- A number of steps one after another. -/
def Times (step : Nat → Nat → Prop) : Nat → Nat → Nat → Prop
  | 0, i, j => i = j
  | n + 1, i, j => ∃ k, step i k ∧ Times step n k j

/-- A shape spans a text from one position to another. Where the bounds of a repetition contradict
each other, the least number counts. -/
def Shape.Spans (text : List Char) : Shape → Nat → Nat → Prop
  | .empty, i, j => i = j
  | .set members, i, j => i + 1 = j ∧ ∃ c, text[i]? = some c ∧ members.contains c
  | .assertion condition, i, j => i = j ∧ condition.holds (charBefore text i) text[i]?
  | .group _ body, i, j => body.Spans text i j
  | .sequence first second, i, j => ∃ k, first.Spans text i k ∧ second.Spans text k j
  | .choice first second, i, j => first.Spans text i j ∨ second.Spans text i j
  | .repetition least greatest _ body, i, j =>
    ∃ n, least ≤ n ∧ (∀ most, greatest = some most → n ≤ max least most) ∧
      Times (body.Spans text) n i j

section Times

variable {step : Nat → Nat → Prop} {i j : Nat}

/-- Steps after others are as many steps as both together. -/
theorem times_add (m n : Nat) :
    Times step (m + n) i j ↔ ∃ k, Times step m i k ∧ Times step n k j := by
  induction m generalizing i with
  | zero => simp [Times]
  | succ m ih =>
    simp only [Nat.succ_add, Times, ih]
    grind

end Times

/-! ## Runs of programs -/

/-- The addresses an instruction may lead to. -/
def Instruction.targets : Instruction → List Nat
  | .consume _ next | .test _ next | .note _ next => [next]
  | .part preferred other => [preferred, other]
  | .accept => []

/-- An instruction leads from a position in a text to an address and a position. -/
def Instruction.Leads (text : List Char) (i : Nat) : Instruction → Nat → Nat → Prop
  | .consume members next, a, j =>
    a = next ∧ j = i + 1 ∧ ∃ c, text[i]? = some c ∧ members.contains c
  | .test condition next, a, j =>
    a = next ∧ j = i ∧ condition.holds (charBefore text i) text[i]?
  | .note _ next, a, j => a = next ∧ j = i
  | .part preferred other, a, j => (a = preferred ∨ a = other) ∧ j = i
  | .accept, _, _ => False

/-- An instruction leads to its targets. -/
theorem Instruction.Leads.mem_targets {text : List Char} {i a j : Nat} {instruction : Instruction}
    (h : instruction.Leads text i a j) : a ∈ instruction.targets := by
  cases instruction with
  | consume | test | note => exact List.mem_singleton.mpr h.1
  | part => simpa [targets] using h.1
  | accept => exact h.elim

/-- From an address and a position a program may come to one of some goals. -/
inductive Hits (text : List Char) (code : Array Instruction) (goal : Nat → Nat → Prop) :
    Nat → Nat → Prop
  | here {a i : Nat} (h : goal a i) : Hits text code goal a i
  | step {a i b j : Nat} {instruction : Instruction} (hat : code[a]? = some instruction)
    (hleads : instruction.Leads text i b j) (h : Hits text code goal b j) : Hits text code goal a i

namespace Hits

variable {text : List Char} {code code' : Array Instruction} {goal goal' : Nat → Nat → Prop}
  {a i : Nat}

/-- A program comes to a goal where it is at one or may come to one from where an instruction
leads. -/
theorem iff_step : Hits text code goal a i ↔ goal a i ∨
    ∃ instruction, code[a]? = some instruction ∧
      ∃ b j, instruction.Leads text i b j ∧ Hits text code goal b j := by
  constructor
  · rintro (h | ⟨hat, hleads, h⟩)
    · exact .inl h
    · exact .inr ⟨_, hat, _, _, hleads, h⟩
  · rintro (h | ⟨instruction, hat, b, j, hleads, h⟩)
    · exact .here h
    · exact .step hat hleads h

/-- A program in which every step is still there, and from whose goals others may be come to, comes
to these. -/
theorem mono (h : Hits text code goal a i)
    (hcode : ∀ (a : Nat) (instruction : Instruction), code[a]? = some instruction →
      instruction.targets ≠ [] → code'[a]? = some instruction)
    (hgoal : ∀ a i, goal a i → Hits text code' goal' a i) : Hits text code' goal' a i := by
  induction h with
  | here h => exact hgoal _ _ h
  | step hat hleads _ ih =>
    exact .step (hcode _ _ hat (List.ne_nil_of_mem hleads.mem_targets)) hleads ih

end Hits

/-! ## Emitted code -/

namespace Emitted

/-- Code whose instructions lead to instructions of it, as the entry does. -/
structure Closed (e : Emitted) : Prop where
  entry : e.entry < e.code.size
  targets : ∀ (a : Nat) instruction, e.code[a]? = some instruction →
    ∀ target ∈ instruction.targets, target < e.code.size

/-- Code put in front of other code, which stays as it is. Nothing in front accepts. -/
structure Extends (e e' : Emitted) : Prop where
  closed : e'.Closed
  size_le : e.code.size ≤ e'.code.size
  kept : ∀ a < e.code.size, e'.code[a]? = e.code[a]?
  working : ∀ (a : Nat), e.code.size ≤ a → e'.code[a]? ≠ some .accept

variable {e e' e'' : Emitted}

/-- Closed code extends itself. -/
theorem Closed.extends (h : e.Closed) : e.Extends e where
  closed := h
  size_le := Nat.le_refl _
  kept _ _ := rfl
  working a ha := by simp [Array.getElem?_eq_none ha]

/-- What extends an extension extends what that extends. -/
theorem Extends.trans (h : e.Extends e') (h' : e'.Extends e'') : e.Extends e'' where
  closed := h'.closed
  size_le := Nat.le_trans h.size_le h'.size_le
  kept a ha := (h'.kept a (Nat.lt_of_lt_of_le ha h.size_le)).trans (h.kept a ha)
  working a ha := by
    by_cases hlt : a < e'.code.size
    · rw [h'.kept a hlt]
      exact h.working a ha
    · exact h'.working a (Nat.not_lt.mp hlt)

/-- Code with a last instruction has it at the entry. -/
theorem code_push_entry (e : Emitted) (instruction : Instruction) :
    (e.push instruction).code[(e.push instruction).entry]? = some instruction :=
  Array.getElem?_push_size

/-- Code with a last instruction is one longer. -/
@[simp] theorem size_push (e : Emitted) (instruction : Instruction) :
    (e.push instruction).code.size = e.code.size + 1 := Array.size_push ..

/-- Code with a last instruction is the same before it. -/
theorem code_push_of_lt {instruction : Instruction} {a : Nat} (ha : a < e.code.size) :
    (e.push instruction).code[a]? = e.code[a]? := by
  rw [push, Array.getElem?_push_lt ha, Array.getElem?_eq_getElem ha]

/-- One more instruction that leads to instructions before it keeps the code closed. -/
theorem Closed.push (h : e.Closed) {instruction : Instruction}
    (htargets : ∀ target ∈ instruction.targets, target < e.code.size) :
    (e.push instruction).Closed where
  entry := by simp [Emitted.push]
  targets a i hi target htarget := by
    rw [size_push]
    by_cases ha : a < e.code.size
    · rw [code_push_of_lt ha] at hi
      exact Nat.lt_succ_of_lt (h.targets a i hi target htarget)
    · obtain rfl : a = e.code.size := by
        have hlt := (Array.getElem?_eq_some_iff.mp hi).1
        rw [size_push] at hlt
        omega
      obtain rfl := Option.some.inj ((code_push_entry e instruction).symm.trans hi)
      exact Nat.lt_succ_of_lt (htargets target htarget)

/-- One more instruction that leads to instructions before it, and does not accept, extends the
code. -/
theorem Closed.extends_push (h : e.Closed) {instruction : Instruction}
    (htargets : ∀ target ∈ instruction.targets, target < e.code.size)
    (haccept : instruction ≠ .accept) : e.Extends (e.push instruction) where
  closed := h.push htargets
  size_le := by simp
  kept _ ha := code_push_of_lt ha
  working a ha := by
    rcases Nat.eq_or_lt_of_le ha with rfl | hlt
    · rw [show (e.push instruction).code[e.code.size]? = _ from code_push_entry e instruction]
      exact fun hsome => haccept (Option.some.inj hsome)
    · have hsize : (e.push instruction).code.size ≤ a := by
        rw [size_push]
        exact hlt
      rw [Array.getElem?_eq_none hsize]
      exact nofun

/-- Both ways of a parting are its targets. -/
theorem mem_targets_parting {greedy : Bool} {inner outer target : Nat} :
    target ∈ (parting greedy inner outer).targets ↔ target = inner ∨ target = outer := by
  cases greedy <;> simp [parting, Instruction.targets, or_comm]

/-- A parting does not accept. -/
theorem parting_ne_accept (greedy : Bool) (inner outer : Nat) :
    parting greedy inner outer ≠ .accept := by
  cases greedy <;> simp [parting]

/-- A parting leads either way. -/
theorem leads_parting {text : List Char} {i : Nat} {greedy : Bool} {inner outer a j : Nat} :
    (parting greedy inner outer).Leads text i a j ↔ (a = inner ∨ a = outer) ∧ j = i := by
  cases greedy <;> simp [parting, Instruction.Leads, or_comm]

variable {text : List Char} {goal : Nat → Nat → Prop} {i : Nat}

/-- Code that keeps closed code comes to what that does from addresses in it. -/
theorem Closed.hits_iff (he : e.Closed) {code : Array Instruction}
    (hkept : ∀ a < e.code.size, code[a]? = e.code[a]?) {a : Nat} (ha : a < e.code.size) :
    Hits text code goal a i ↔ Hits text e.code goal a i := by
  constructor
  · intro hhits
    induction hhits with
    | here h => exact .here h
    | step hat hleads _ ih =>
      rw [hkept _ ha] at hat
      exact .step hat hleads (ih (he.targets _ _ hat _ hleads.mem_targets))
  · intro hhits
    induction hhits with
    | here h => exact .here h
    | step hat hleads _ ih =>
      have htarget := he.targets _ _ hat _ hleads.mem_targets
      exact .step ((hkept _ ha).trans hat) hleads (ih htarget)

/-- Code entered at a last instruction comes where the code comes to from where that leads. -/
theorem Closed.hits_push (he : e.Closed) (hgoal : ∀ a i, goal a i → a < e.code.size)
    {instruction : Instruction} (htargets : ∀ target ∈ instruction.targets, target < e.code.size) :
    Hits text (e.push instruction).code goal (e.push instruction).entry i ↔
      ∃ b j, instruction.Leads text i b j ∧ Hits text e.code goal b j := by
  rw [Hits.iff_step, code_push_entry]
  have hnotGoal : ¬ goal (e.push instruction).entry i := fun h =>
    Nat.lt_irrefl _ (hgoal _ _ h)
  constructor
  · rintro (h | ⟨_, hsome, b, j, hleads, h⟩)
    · exact absurd h hnotGoal
    · obtain rfl := Option.some.inj hsome
      have hb := htargets b hleads.mem_targets
      exact ⟨b, j, hleads, (he.hits_iff (fun _ => code_push_of_lt) hb).mp h⟩
  · rintro ⟨b, j, hleads, h⟩
    have hb := htargets b hleads.mem_targets
    exact .inr ⟨_, rfl, b, j, hleads, (he.hits_iff (fun _ => code_push_of_lt) hb).mpr h⟩

/-- A parting into code and what it extends leads to instructions. -/
theorem Extends.targets_parting (h : e.Extends e') (he : e.Closed) {greedy : Bool} :
    ∀ target ∈ (parting greedy e'.entry e.entry).targets, target < e'.code.size := by
  intro target htarget
  rcases mem_targets_parting.mp htarget with rfl | rfl
  · exact h.closed.entry
  · exact Nat.lt_of_lt_of_le he.entry h.size_le

/-- A parting into code and what it extends extends it too. -/
theorem Extends.push_parting (h : e.Extends e') (he : e.Closed) (greedy : Bool) :
    e.Extends (e'.push (parting greedy e'.entry e.entry)) :=
  h.trans (h.closed.extends_push (h.targets_parting he) (parting_ne_accept _ _ _))

/-- A parting into code and what it extends comes where either does. -/
theorem Extends.hits_push_parting (h : e.Extends e') (he : e.Closed)
    (hgoal : ∀ a i, goal a i → a < e.code.size) (greedy : Bool) :
    let parted := e'.push (parting greedy e'.entry e.entry)
    Hits text parted.code goal parted.entry i ↔
      Hits text e'.code goal e'.entry i ∨ Hits text e.code goal e.entry i := by
  intro parted
  have hgoal' : ∀ a i, goal a i → a < e'.code.size := fun a i ha =>
    Nat.lt_of_lt_of_le (hgoal a i ha) h.size_le
  rw [show parted = e'.push (parting greedy e'.entry e.entry) from rfl,
    h.closed.hits_push hgoal' (h.targets_parting he), ← he.hits_iff h.kept he.entry]
  simp only [leads_parting]
  grind

end Emitted

/-! ## Pieces -/

/-- A piece of a program that goes along some steps: put in front of closed code, it leads from its
entry to the goals in that code by a step and then from where that code is entered. -/
structure Goes (text : List Char) (piece : Emitted → Emitted) (step : Nat → Nat → Prop) :
    Prop where
  extend : ∀ e : Emitted, e.Closed → e.Extends (piece e)
  hits : ∀ (e : Emitted) (goal : Nat → Nat → Prop), e.Closed →
    (∀ a i, goal a i → a < e.code.size) → ∀ i,
      Hits text (piece e).code goal (piece e).entry i ↔
        ∃ k, step i k ∧ Hits text e.code goal e.entry k

namespace Goes

variable {text : List Char} {piece piece' : Emitted → Emitted} {step step' : Nat → Nat → Prop}

/-- A piece goes along the same steps however they are described. -/
theorem congr (h : Goes text piece step) (hstep : ∀ i j, step i j ↔ step' i j) :
    Goes text piece step' where
  extend := h.extend
  hits e goal he hgoal i := by simp only [h.hits e goal he hgoal, hstep]

/-- Nothing goes nowhere. -/
theorem nothing (text : List Char) : Goes text id Eq where
  extend _ he := he.extends
  hits e goal he hgoal i := by simp

/-- A piece in front of another goes along its steps and then those of the other. -/
theorem comp (h : Goes text piece step) (h' : Goes text piece' step') :
    Goes text (piece ∘ piece') fun i j => ∃ k, step i k ∧ step' k j where
  extend e he := (h'.extend e he).trans (h.extend _ (h'.extend e he).closed)
  hits e goal he hgoal i := by
    have he' := h'.extend e he
    have hgoal' : ∀ a i, goal a i → a < (piece' e).code.size := fun a i ha =>
      Nat.lt_of_lt_of_le (hgoal a i ha) he'.size_le
    simp only [Function.comp_apply, h.hits _ goal he'.closed hgoal', h'.hits e goal he hgoal]
    grind

/-- One instruction with which the match goes on goes where it leads. -/
theorem push (instruction : Nat → Instruction)
    (htargets : ∀ entry, (instruction entry).targets = [entry])
    (hleads : ∀ entry i a j, (instruction entry).Leads text i a j ↔ a = entry ∧ step i j) :
    Goes text (fun e => e.push (instruction e.entry)) step where
  extend e he := by
    refine he.extends_push ?_ fun haccept => ?_
    · simpa [htargets] using he.entry
    · simpa [haccept, Instruction.targets] using htargets e.entry
  hits e goal he hgoal i := by
    have hentry : ∀ target ∈ (instruction e.entry).targets, target < e.code.size := by
      simpa [htargets] using he.entry
    rw [he.hits_push hgoal hentry]
    simp only [hleads]
    grind

/-- Copies of a piece go along as many of its steps. -/
theorem copies (h : Goes text piece step) (n : Nat) :
    Goes text (Emitted.copies piece n) (Times step n) := by
  induction n with
  | zero => exact nothing text
  | succ n ih => exact h.comp ih

/-- A choice goes along the steps of either piece. -/
theorem choice (h : Goes text piece step) (h' : Goes text piece' step') :
    Goes text
      (fun e =>
        let other := piece' e
        let preferred := piece ⟨other.code, e.entry⟩
        preferred.push (.part preferred.entry other.entry))
      fun i j => step i j ∨ step' i j := by
  have hfirst (e : Emitted) (he : e.Closed) : (⟨(piece' e).code, e.entry⟩ : Emitted).Closed :=
    ⟨Nat.lt_of_lt_of_le he.entry (h'.extend e he).size_le, (h'.extend e he).closed.targets⟩
  have htargets (e : Emitted) (he : e.Closed) :
      let other := piece' e
      let preferred := piece ⟨other.code, e.entry⟩
      ∀ target ∈ (Instruction.part preferred.entry other.entry).targets,
        target < preferred.code.size := by
    intro other preferred
    have hother := (h'.extend e he).closed.entry
    have hpreferred := h.extend _ (hfirst e he)
    simp only [Instruction.targets, List.forall_mem_cons, List.not_mem_nil, false_implies,
      implies_true, and_true]
    exact ⟨hpreferred.closed.entry, Nat.lt_of_lt_of_le hother hpreferred.size_le⟩
  constructor
  case extend =>
    intro e he
    have hother := h'.extend e he
    have hpreferred := h.extend _ (hfirst e he)
    have hboth : e.Extends (piece ⟨(piece' e).code, e.entry⟩) :=
      hother.trans ⟨hpreferred.closed, hpreferred.size_le, hpreferred.kept, hpreferred.working⟩
    exact hboth.trans (hpreferred.closed.extends_push (htargets e he) nofun)
  case hits =>
    intro e goal he hgoal i
    have hother := h'.extend e he
    have hpreferred := h.extend _ (hfirst e he)
    have hgoal' : ∀ a i, goal a i → a < (piece' e).code.size := fun a i ha =>
      Nat.lt_of_lt_of_le (hgoal a i ha) hother.size_le
    have hgoal'' : ∀ a i, goal a i → a < (piece ⟨(piece' e).code, e.entry⟩).code.size :=
      fun a i ha => Nat.lt_of_lt_of_le (hgoal' a i ha) hpreferred.size_le
    have hkept (j : Nat) : Hits text (piece' e).code goal e.entry j ↔
        Hits text e.code goal e.entry j := he.hits_iff hother.kept he.entry
    have hout : Hits text (piece ⟨(piece' e).code, e.entry⟩).code goal (piece' e).entry i ↔
        Hits text (piece' e).code goal (piece' e).entry i :=
      (hfirst e he).hits_iff hpreferred.kept hother.closed.entry
    have hin := h.hits ⟨(piece' e).code, e.entry⟩ goal (hfirst e he) hgoal' i
    rw [hpreferred.closed.hits_push hgoal'' (htargets e he)]
    calc _ ↔ Hits text (piece ⟨(piece' e).code, e.entry⟩).code goal
            (piece ⟨(piece' e).code, e.entry⟩).entry i ∨
          Hits text (piece ⟨(piece' e).code, e.entry⟩).code goal (piece' e).entry i := by
          simp only [Instruction.Leads]
          grind
      _ ↔ (∃ k, step i k ∧ Hits text e.code goal e.entry k) ∨
          ∃ k, step' i k ∧ Hits text e.code goal e.entry k := by
          rw [hin, hout, h'.hits e goal he hgoal]
          simp only [hkept]
      _ ↔ _ := by grind

/-- Optional copies of a piece go along at most as many of its steps. -/
theorem optionals (h : Goes text piece step) (greedy : Bool) (n : Nat) :
    Goes text (fun e => Emitted.optionals piece greedy e.entry n e)
      fun i j => ∃ m ≤ n, Times step m i j := by
  have hextend (e : Emitted) (he : e.Closed) (n : Nat) :
      e.Extends (Emitted.optionals piece greedy e.entry n e) := by
    induction n with
    | zero => exact he.extends
    | succ n ih => exact (ih.trans (h.extend _ ih.closed)).push_parting he greedy
  refine ⟨fun e he => hextend e he n, fun e goal he hgoal i => ?_⟩
  induction n generalizing i with
  | zero => simp [Emitted.optionals, Times]
  | succ n ih =>
    let rest := Emitted.optionals piece greedy e.entry n e
    have hrest := hextend e he n
    have hgoal' : ∀ a i, goal a i → a < rest.code.size := fun a i ha =>
      Nat.lt_of_lt_of_le (hgoal a i ha) hrest.size_le
    have hinner := hrest.trans (h.extend rest hrest.closed)
    calc _ ↔ Hits text (piece rest).code goal (piece rest).entry i ∨
          Hits text e.code goal e.entry i := hinner.hits_push_parting he hgoal greedy
      _ ↔ (∃ k, step i k ∧ ∃ j, (∃ m ≤ n, Times step m k j) ∧ Hits text e.code goal e.entry j) ∨
          Hits text e.code goal e.entry i := by
          rw [h.hits rest goal hrest.closed hgoal']
          simp only [rest, ih]
      _ ↔ _ := by
        constructor
        · rintro (⟨k, hstep, j, ⟨m, hm, htimes⟩, hhits⟩ | hhits)
          · exact ⟨j, ⟨m + 1, Nat.succ_le_succ hm, k, hstep, htimes⟩, hhits⟩
          · exact ⟨i, ⟨0, Nat.zero_le _, rfl⟩, hhits⟩
        · rintro ⟨j, ⟨m, hm, htimes⟩, hhits⟩
          cases m with
          | zero =>
            obtain rfl : i = j := htimes
            exact .inr hhits
          | succ m =>
            obtain ⟨k, hstep, htimes⟩ := htimes
            exact .inl ⟨k, hstep, j, ⟨m, Nat.le_of_succ_le_succ hm, htimes⟩, hhits⟩

end Goes

/-! ## Loops -/

section Loop

variable {text : List Char} {piece : Emitted → Emitted} {step : Nat → Nat → Prop} {e : Emitted}
  {goal : Nat → Nat → Prop} {i : Nat}

/-- The body of a loop is put in front of a stop. -/
theorem Goes.extends_held (h : Goes text piece step) (he : e.Closed) :
    (e.push .accept).Closed ∧ (e.push .accept).Extends (piece (e.push .accept)) := by
  have hheld : (e.push .accept).Closed := he.push nofun
  exact ⟨hheld, h.extend _ hheld⟩

/-- The code of a loop is that of its body with a parting in place of the stop. -/
theorem Goes.code_loop (h : Goes text piece step) (he : e.Closed) (greedy : Bool) (a : Nat) :
    (e.loop piece greedy).code[a]? =
      if e.code.size = a then some (parting greedy (e.loop piece greedy).entry e.entry)
      else (piece (e.push .accept)).code[a]? := by
  obtain ⟨-, hinner⟩ := h.extends_held he
  have hlt : e.code.size < (piece (e.push .accept)).code.size :=
    Nat.lt_of_lt_of_le (by simp) hinner.size_le
  simp only [Emitted.loop, Array.getElem?_setIfInBounds, hlt, ↓reduceIte]

/-- The body of a loop stops where the loop parts. -/
theorem Goes.code_inner (h : Goes text piece step) (he : e.Closed) :
    (piece (e.push .accept)).code[e.code.size]? = some .accept := by
  obtain ⟨-, hinner⟩ := h.extends_held he
  rw [hinner.kept _ (by simp)]
  exact e.code_push_entry .accept

/-- A loop extends the code it was put in front of. -/
theorem Goes.extends_loop (h : Goes text piece step) (he : e.Closed) (greedy : Bool) :
    e.Extends (e.loop piece greedy) := by
  obtain ⟨hheld, hinner⟩ := h.extends_held he
  have hsize : (e.loop piece greedy).code.size = (piece (e.push .accept)).code.size :=
    Array.size_setIfInBounds ..
  have hlt : e.code.size < (piece (e.push .accept)).code.size :=
    Nat.lt_of_lt_of_le (by simp) hinner.size_le
  have hentry : (e.loop piece greedy).entry < (e.loop piece greedy).code.size :=
    Nat.lt_of_lt_of_eq hinner.closed.entry hsize.symm
  constructor
  case closed =>
    refine ⟨hentry, fun a instruction hat target htarget => ?_⟩
    rw [h.code_loop he] at hat
    split at hat
    · obtain rfl := Option.some.inj hat
      rcases Emitted.mem_targets_parting.mp htarget with rfl | rfl
      · exact hentry
      · rw [hsize]
        exact Nat.lt_trans he.entry hlt
    · rw [hsize]
      exact hinner.closed.targets a instruction hat target htarget
  case size_le =>
    rw [hsize]
    exact Nat.le_of_lt hlt
  case kept =>
    intro a ha
    rw [h.code_loop he, if_neg (Nat.ne_of_gt ha), hinner.kept a (by simp; omega),
      Emitted.code_push_of_lt ha]
  case working =>
    intro a ha
    rw [h.code_loop he]
    split
    · exact fun haccept => Emitted.parting_ne_accept _ _ _ (Option.some.inj haccept)
    · exact hinner.working a (by simp; omega)

/-- From some position the goals in the code behind a loop are come to by any number of steps. -/
def Again (text : List Char) (step : Nat → Nat → Prop) (e : Emitted) (goal : Nat → Nat → Prop)
    (i : Nat) : Prop :=
  ∃ n k, Times step n i k ∧ Hits text e.code goal e.entry k

/-- Goals for the body of a loop: the parting, from where the loop goes again, and goals of the loop
that are come to from the code behind it. -/
def Rounds (text : List Char) (step : Nat → Nat → Prop) (e : Emitted) (code : Array Instruction)
    (goal : Nat → Nat → Prop) (a i : Nat) : Prop :=
  a = e.code.size ∧ Again text step e goal i ∨ a < e.code.size ∧ Hits text code goal a i

/-- The body of a loop comes by a step to where the loop goes again. -/
theorem Goes.hits_inner (h : Goes text piece step) (he : e.Closed) {code : Array Instruction} :
    Hits text (piece (e.push .accept)).code (Rounds text step e code goal)
        (piece (e.push .accept)).entry i ↔ ∃ k, step i k ∧ Again text step e goal k := by
  have hwithin : ∀ a i, Rounds text step e code goal a i → a < (e.push .accept).code.size := by
    rintro a i (⟨rfl, -⟩ | ⟨ha, -⟩)
    · simp
    · simp; omega
  have hstop (k : Nat) : Hits text (e.push .accept).code (Rounds text step e code goal)
      e.code.size k ↔ Again text step e goal k := by
    rw [Hits.iff_step]
    constructor
    · rintro ((⟨-, hagain⟩ | ⟨hlt, -⟩) | ⟨instruction, hat, b, j, hleads, -⟩)
      · exact hagain
      · exact absurd hlt (Nat.lt_irrefl _)
      · obtain rfl := Option.some.inj ((e.code_push_entry .accept).symm.trans hat)
        exact hleads.elim
    · exact fun hagain => .inl (.inl ⟨rfl, hagain⟩)
  rw [h.hits _ _ (h.extends_held he).1 hwithin]
  exact exists_congr fun k => and_congr_right fun _ => hstop k

/-- Whatever a loop comes to, its body comes to in rounds. -/
theorem Goes.hits_inner_of_loop (h : Goes text piece step) (he : e.Closed) {greedy : Bool}
    (hgoal : ∀ a i, goal a i → a < e.code.size) {a : Nat}
    (hhits : Hits text (e.loop piece greedy).code goal a i) :
    Hits text (piece (e.push .accept)).code
      (Rounds text step e (e.loop piece greedy).code goal) a i := by
  induction hhits with
  | here hat => exact .here (.inr ⟨hgoal _ _ hat, .here hat⟩)
  | @step a i b j instruction hat hleads hhits ih =>
    rcases Nat.lt_trichotomy a e.code.size with hlt | rfl | hgt
    · exact .here (.inr ⟨hlt, .step hat hleads hhits⟩)
    · -- The parting enters the body once more, or leaves the loop for the code behind it.
      refine .here (.inl ⟨rfl, ?_⟩)
      rw [h.code_loop he, if_pos rfl] at hat
      obtain rfl := Option.some.inj hat
      obtain ⟨hb, rfl⟩ := Emitted.leads_parting.mp hleads
      rcases hb with rfl | rfl
      · obtain ⟨k, hstep, n, m, htimes, hrest⟩ := (h.hits_inner he).mp ih
        exact ⟨n + 1, m, ⟨k, hstep, htimes⟩, hrest⟩
      · have hkept := (h.extends_loop he greedy).kept
        exact ⟨0, _, rfl, (he.hits_iff hkept he.entry).mp hhits⟩
    · rw [h.code_loop he, if_neg (Nat.ne_of_lt hgt)] at hat
      exact .step hat hleads ih

/-- Whatever the body of a loop comes to in rounds, the loop comes to. -/
theorem Goes.hits_loop_of_inner (h : Goes text piece step) (he : e.Closed) {greedy : Bool} {a : Nat}
    (hhits : Hits text (piece (e.push .accept)).code
      (Rounds text step e (e.loop piece greedy).code goal) a i) :
    Hits text (e.loop piece greedy).code goal a i := by
  have hcode : ∀ (a : Nat) (instruction : Instruction),
      (piece (e.push .accept)).code[a]? = some instruction → instruction.targets ≠ [] →
        (e.loop piece greedy).code[a]? = some instruction := by
    intro a instruction hat htargets
    rw [h.code_loop he, if_neg]
    · exact hat
    · rintro rfl
      obtain rfl := Option.some.inj ((h.code_inner he).symm.trans hat)
      exact htargets rfl
  have hfork : (e.loop piece greedy).code[e.code.size]? =
      some (parting greedy (e.loop piece greedy).entry e.entry) := by
    rw [h.code_loop he, if_pos rfl]
  have hagain (n : Nat) : ∀ i k, Times step n i k → Hits text e.code goal e.entry k →
      Hits text (e.loop piece greedy).code goal e.code.size i := by
    induction n with
    | zero =>
      rintro i _ rfl hrest
      have hout := (he.hits_iff (h.extends_loop he greedy).kept he.entry).mpr hrest
      exact .step hfork (Emitted.leads_parting.mpr ⟨.inr rfl, rfl⟩) hout
    | succ n ih =>
      rintro i k ⟨m, hstep, htimes⟩ hrest
      have hround : Hits text (piece (e.push .accept)).code
          (fun a j => a = e.code.size ∧ j = m) (piece (e.push .accept)).entry i :=
        (h.hits _ _ (h.extends_held he).1 (fun a j ha => by simp [ha.1]) i).mpr
          ⟨m, hstep, .here ⟨rfl, rfl⟩⟩
      refine .step hfork (Emitted.leads_parting.mpr ⟨.inl rfl, rfl⟩) (hround.mono hcode ?_)
      rintro _ _ ⟨rfl, rfl⟩
      exact ih _ k htimes hrest
  refine hhits.mono hcode ?_
  rintro a i (⟨rfl, n, k, htimes, hrest⟩ | ⟨-, hrest⟩)
  · exact hagain n i k htimes hrest
  · exact hrest

/-- A loop comes from its parting to where it goes again. -/
theorem Goes.hits_fork (h : Goes text piece step) (he : e.Closed) {greedy : Bool}
    (hgoal : ∀ a i, goal a i → a < e.code.size) :
    Hits text (e.loop piece greedy).code goal e.code.size i ↔ Again text step e goal i := by
  constructor
  · intro hhits
    rcases Hits.iff_step.mp (h.hits_inner_of_loop he hgoal hhits) with hround | hstep
    · rcases hround with ⟨-, hagain⟩ | ⟨hlt, -⟩
      · exact hagain
      · exact absurd hlt (Nat.lt_irrefl _)
    · obtain ⟨instruction, hat, b, j, hleads, -⟩ := hstep
      obtain rfl := Option.some.inj ((h.code_inner he).symm.trans hat)
      exact hleads.elim
  · exact fun hagain => h.hits_loop_of_inner he (.here (.inl ⟨rfl, hagain⟩))

/-- A loop goes along one or more of the steps of its body. -/
theorem Goes.loop (h : Goes text piece step) (greedy : Bool) :
    Goes text (fun e => e.loop piece greedy) fun i j => ∃ n, Times step (n + 1) i j where
  extend e he := h.extends_loop he greedy
  hits e goal he hgoal i := by
    have hinner : Hits text (e.loop piece greedy).code goal (e.loop piece greedy).entry i ↔
        ∃ k, step i k ∧ Again text step e goal k :=
      ⟨fun hhits => (h.hits_inner he).mp (h.hits_inner_of_loop he hgoal hhits),
        fun hround => h.hits_loop_of_inner he ((h.hits_inner he).mpr hround)⟩
    simp only [hinner, Again, Times]
    grind

/-- A starred piece goes along any number of its steps. -/
theorem Goes.star (h : Goes text piece step) (greedy neverEmpty : Bool) :
    Goes text (fun e => e.star piece greedy neverEmpty) fun i j => ∃ n, Times step n i j := by
  have hagain (e : Emitted) (goal : Nat → Nat → Prop) (i : Nat) : Again text step e goal i ↔
      ∃ k, (∃ n, Times step n i k) ∧ Hits text e.code goal e.entry k := by
    simp only [Again]
    grind
  cases neverEmpty with
  | true =>
    constructor
    case extend =>
      intro e he
      have hloop := h.extends_loop he greedy
      have hfork : e.code.size < (e.loop piece greedy).code.size := by
        have hinner := (h.extends_held he).2.size_le
        have hsize : (e.loop piece greedy).code.size = (piece (e.push .accept)).code.size :=
          Array.size_setIfInBounds ..
        simp only [Emitted.size_push] at hinner
        omega
      exact ⟨⟨hfork, hloop.closed.targets⟩, hloop.size_le, hloop.kept, hloop.working⟩
    case hits =>
      intro e goal he hgoal i
      exact (h.hits_fork he hgoal).trans (hagain e goal i)
  | false =>
    constructor
    case extend => exact fun e he => (h.extends_loop he greedy).push_parting he greedy
    case hits =>
      intro e goal he hgoal i
      refine ((h.extends_loop he greedy).hits_push_parting he hgoal greedy).trans ?_
      rw [(h.loop greedy).hits e goal he hgoal]
      constructor
      · rintro (⟨k, ⟨n, htimes⟩, hrest⟩ | hrest)
        · exact ⟨k, ⟨n + 1, htimes⟩, hrest⟩
        · exact ⟨i, ⟨0, rfl⟩, hrest⟩
      · rintro ⟨k, ⟨n, htimes⟩, hrest⟩
        cases n with
        | zero =>
          obtain rfl : i = k := htimes
          exact .inr hrest
        | succ n => exact .inl ⟨k, ⟨n, htimes⟩, hrest⟩

end Loop

/-! ## Shapes -/

/-- What a shape compiles to goes along what it spans. -/
theorem Shape.goes_emit (text : List Char) (s : Shape) : Goes text s.emit (s.Spans text) := by
  induction s with
  | empty => exact .nothing text
  | set members =>
    refine Goes.push (.consume members) (fun _ => rfl) fun entry i a j => ?_
    simp only [Instruction.Leads, Spans]
    grind
  | assertion condition =>
    refine Goes.push (.test condition) (fun _ => rfl) fun entry i a j => ?_
    simp only [Instruction.Leads, Spans]
    grind
  | group index body ih =>
    have hnote (slot : Nat) : Goes text (fun e => e.push (.note slot e.entry)) Eq := by
      refine Goes.push (.note slot) (fun _ => rfl) fun entry i a j => ?_
      simp only [Instruction.Leads]
      grind
    exact ((hnote (2 * index)).comp (ih.comp (hnote (2 * index + 1)))).congr (by simp [Spans])
  | sequence first second ihFirst ihSecond => exact ihFirst.comp ihSecond
  | choice first second ihFirst ihSecond => exact ihFirst.choice ihSecond
  | repetition least greatest greedy body ih =>
    cases greatest with
    | some most =>
      refine ((ih.copies least).comp (ih.optionals greedy (most - least))).congr fun i j => ?_
      simp only [Spans, Option.some.injEq, forall_eq']
      constructor
      · rintro ⟨k, hleast, m, hm, hmore⟩
        exact ⟨least + m, by omega, by omega, (times_add least m).mpr ⟨k, hleast, hmore⟩⟩
      · rintro ⟨n, hn, hmost, htimes⟩
        obtain ⟨m, rfl⟩ := Nat.exists_eq_add_of_le hn
        obtain ⟨k, hleast, hmore⟩ := (times_add least m).mp htimes
        exact ⟨k, hleast, m, by omega, hmore⟩
    | none =>
      cases least with
      | zero => exact (ih.star greedy body.neverEmpty).congr (by simp [Spans])
      | succ least =>
        refine ((ih.copies least).comp (ih.loop greedy)).congr fun i j => ?_
        simp only [Spans, reduceCtorEq, false_implies, implies_true, true_and]
        constructor
        · rintro ⟨k, hleast, n, hmore⟩
          exact ⟨least + (n + 1), by omega, (times_add least (n + 1)).mpr ⟨k, hleast, hmore⟩⟩
        · rintro ⟨n, hn, htimes⟩
          obtain ⟨m, rfl⟩ := Nat.exists_eq_add_of_le hn
          rw [Nat.add_right_comm, Nat.add_assoc] at htimes
          obtain ⟨k, hleast, hmore⟩ := (times_add least (m + 1)).mp htimes
          exact ⟨k, hleast, m, hmore⟩

/-- From an address and a position a program may come to accept. -/
def Accepts (text : List Char) (code : Array Instruction) (a i : Nat) : Prop :=
  Hits text code (fun a _ => code[a]? = some .accept) a i

/-- A compiled pattern accepts from a position where its shape spans some of the text. -/
theorem Source.accepts_compile_iff (s : Source) (text : List Char) (i : Nat) :
    Accepts text s.compile.code s.compile.entry i ↔ ∃ j, s.shape.Spans text i j := by
  let e := (Emitted.mk #[] 0).push .accept
  have he : e.Closed := by
    refine ⟨Nat.zero_lt_one, fun a instruction hat target htarget => ?_⟩
    obtain ⟨ha, hat⟩ := Array.getElem?_eq_some_iff.mp hat
    obtain rfl : a = 0 := Nat.lt_one_iff.mp ha
    subst hat
    exact absurd htarget List.not_mem_nil
  have hgoes := Shape.goes_emit text (.group 0 s.shape)
  have hextends := hgoes.extend e he
  have haccept (a : Nat) : s.compile.code[a]? = some .accept ↔ a = 0 := by
    constructor
    · exact fun hat => Nat.eq_zero_of_not_pos fun hpos => hextends.working a hpos hat
    · rintro rfl
      exact hextends.kept 0 Nat.zero_lt_one
  have hhits := hgoes.hits e (fun a _ => a = 0) he (fun _ _ ha => ha ▸ Nat.zero_lt_one) i
  simp only [Accepts, haccept]
  exact hhits.trans (exists_congr fun j => and_iff_left (.here rfl))

end GridAudit.Pattern
