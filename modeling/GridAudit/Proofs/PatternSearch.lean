import GridAudit.Pattern.Search
import GridAudit.Proofs.PatternPrograms
import Mathlib.Data.List.Basic
import Mathlib.Logic.Relation

/-!
# Searches find whatever programs accept

A search settles its threads at a position: it follows them through the instructions that consume
nothing, each address once, up to those that consume a character or accept. The addresses seen in
the end are closed under such steps, so every address that a thread may drift to is settled at. The
threads that accept end a search with a match; as long as there are none, all others are moved over
the next character, and none is lost for being less preferred.
-/

namespace GridAudit.Pattern

/-- The position after some characters of a text. -/
def Position.of (text : List Char) (i : Nat) : Position := ⟨i, charBefore text i, text[i]?⟩

/-- A thread at one address may go on at another without consuming a character. -/
def Program.Drifts (p : Program) (pos : Position) (a b : Nat) : Prop :=
  ∃ instruction, p.code[a]? = some instruction ∧ match instruction with
    | .test condition next => condition.holds pos.before pos.after ∧ b = next
    | .note _ next => b = next
    | .part preferred other => b = preferred ∨ b = other
    | .consume _ _ | .accept => False

/-- A thread stays at an instruction that consumes a character or accepts. -/
def Program.Stays (p : Program) (a : Nat) : Prop :=
  p.code[a]? = some .accept ∨ ∃ members next, p.code[a]? = some (.consume members next)

variable {p : Program} {pos : Position}

/-! ## Settling -/

namespace Settled

/-- An address was seen; addresses outside the program count as seen. -/
def Saw (s : Settled) (a : Nat) : Prop := s.seen.getD a true = true

/-- How many addresses were not seen. -/
def unseen (s : Settled) : Nat := s.seen.toList.count false

/-- An address seen, and the threads settled. -/
def see (s : Settled) (a : Nat) (threads : List Thread) : Settled :=
  ⟨s.seen.setIfInBounds a true, threads⟩

variable {s : Settled} {a b : Nat} {t : Thread} {threads pending : List Thread}

/-- What was seen stays so, and the address seen last was seen. -/
theorem saw_see : (s.see a threads).Saw b ↔ b = a ∨ s.Saw b := by
  simp only [Saw, see, Array.getD_eq_getD_getElem?, Array.getElem?_setIfInBounds]
  grind

/-- To see a new address leaves one less. -/
theorem unseen_see (h : ¬ s.Saw a) : (s.see a threads).unseen + 1 = s.unseen := by
  have hlt : a < s.seen.toList.length := by
    refine Nat.lt_of_not_le fun hle => h ?_
    rw [Saw, Array.getD_eq_getD_getElem?, Array.getElem?_eq_none hle]
    rfl
  have hfalse : s.seen.toList[a] = false := by
    simpa [Saw, Array.getD_eq_getD_getElem?, Array.getElem?_eq_getElem hlt] using h
  have hpos : 0 < s.seen.toList.count false :=
    List.count_pos_iff.mpr (hfalse ▸ List.getElem_mem hlt)
  rw [unseen, see, Array.toList_setIfInBounds, List.count_set hlt, hfalse]
  exact Nat.sub_add_cancel hpos

/-- The addresses seen are worked off, but for threads that are still to be followed: those at which
a thread stays have one, and those to which a thread may drift are seen or still to be followed. -/
structure Covers (p : Program) (pos : Position) (s : Settled) (pending : List Thread) : Prop where
  stays : ∀ a, s.Saw a → p.Stays a → ∃ t ∈ s.threads, t.address = a
  drifts : ∀ a b, s.Saw a → p.Drifts pos a b → s.Saw b ∨ ∃ t ∈ pending, t.address = b

/-- A thread at an address that was seen need not be followed. -/
theorem Covers.skip (h : s.Covers p pos (t :: pending)) (ht : s.Saw t.address) :
    s.Covers p pos pending where
  stays := h.stays
  drifts a b ha hb := by
    rcases h.drifts a b ha hb with hb | ⟨t', ht', rfl⟩
    · exact .inl hb
    · rcases List.mem_cons.mp ht' with rfl | ht'
      · exact .inl ht
      · exact .inr ⟨t', ht', rfl⟩

/-- A thread may be followed to where it may drift, and settled where it stays. -/
theorem Covers.follow (h : s.Covers p pos (t :: pending)) {new : List Thread}
    (hnew : ∀ b, p.Drifts pos t.address b → ∃ t' ∈ new, t'.address = b)
    (hthreads : s.threads ⊆ threads) (hstays : p.Stays t.address → t ∈ threads) :
    (s.see t.address threads).Covers p pos (new ++ pending) where
  stays a ha hstay := by
    rcases saw_see.mp ha with rfl | ha
    · exact ⟨t, hstays hstay, rfl⟩
    · obtain ⟨t', ht', haddress⟩ := h.stays a ha hstay
      exact ⟨t', hthreads ht', haddress⟩
  drifts a b ha hb := by
    rw [saw_see]
    rcases saw_see.mp ha with rfl | ha
    · obtain ⟨t', ht', haddress⟩ := hnew b hb
      exact .inr ⟨t', List.mem_append_left _ ht', haddress⟩
    · rcases h.drifts a b ha hb with hb | ⟨t', ht', rfl⟩
      · exact .inl (.inr hb)
      · rcases List.mem_cons.mp ht' with rfl | ht'
        · exact .inl (.inl rfl)
        · exact .inr ⟨t', List.mem_append_right _ ht', rfl⟩

end Settled

/-- What one step of settling does with a thread at a new address: it is followed to where it may
drift, and settled if it stays. -/
theorem exists_settle_cons {s : Settled} {t : Thread} (h : ¬ s.Saw t.address) (fuel : Nat)
    (pending : List Thread) :
    ∃ new threads, settle p pos (fuel + 1) (t :: pending) s =
        settle p pos fuel (new ++ pending) (s.see t.address threads) ∧
      new.length ≤ 2 ∧ (∀ b, p.Drifts pos t.address b ↔ ∃ t' ∈ new, t'.address = b) ∧
      (threads = t :: s.threads ∧ p.Stays t.address ∨
        threads = s.threads ∧ ¬ p.Stays t.address) := by
  have hsaw : ¬ s.seen.getD t.address true := h
  simp only [settle, hsaw, Bool.false_eq_true, ↓reduceIte, Program.Drifts, Program.Stays]
  cases hat : p.code[t.address]? with
  | none => exact ⟨[], s.threads, rfl, by simp⟩
  | some instruction =>
    cases instruction with
    | consume members next => exact ⟨[], t :: s.threads, rfl, by simp⟩
    | accept => exact ⟨[], t :: s.threads, rfl, by simp⟩
    | note slot next =>
      exact ⟨[⟨next, (slot, pos.index) :: t.notes⟩], s.threads, rfl, by simp [@eq_comm Nat next]⟩
    | part preferred other =>
      refine ⟨[⟨preferred, t.notes⟩, ⟨other, t.notes⟩], s.threads, rfl, by simp, fun b => ?_, ?_⟩
      · simp only [Option.some.injEq, exists_eq_left', List.mem_cons, List.not_mem_nil, or_false]
        grind
      · simp
    | test condition next =>
      by_cases hholds : condition.holds pos.before pos.after
      · exact ⟨[⟨next, t.notes⟩], s.threads, if_pos hholds, by simp [hholds, @eq_comm Nat next]⟩
      · exact ⟨[], s.threads, if_neg hholds, by simp [hholds]⟩

open Relation in
/-- Settling ends with everything worked off, what was seen still seen, the threads to be followed
seen, and no threads but those before and those that stay where followed ones may drift. -/
theorem settle_spec (fuel : Nat) {pending : List Thread} {s : Settled}
    (hfuel : 2 * s.unseen + pending.length < fuel) (hs : s.Covers p pos pending) :
    let r := settle p pos fuel pending s
    r.Covers p pos [] ∧ (∀ a, s.Saw a → r.Saw a) ∧ (∀ t ∈ pending, r.Saw t.address) ∧
      ∀ t ∈ r.threads, t ∈ s.threads ∨
        p.Stays t.address ∧ ∃ t' ∈ pending, ReflTransGen (p.Drifts pos) t'.address t.address := by
  intro r
  induction fuel generalizing pending s with
  | zero => exact absurd hfuel (Nat.not_lt_zero _)
  | succ fuel ih =>
    cases pending with
    | nil => exact ⟨hs, fun _ h => h, nofun, fun t ht => .inl ht⟩
    | cons t pending =>
      rw [List.length_cons] at hfuel
      by_cases hsaw : s.Saw t.address
      · have hr : r = settle p pos fuel pending s := by
          have hseen : s.seen.getD t.address true := hsaw
          simp only [r, settle, hseen, ↓reduceIte]
        obtain ⟨hcovers, hkept, hpending, hthreads⟩ := ih (by omega) (hs.skip hsaw)
        rw [hr]
        refine ⟨hcovers, hkept, List.forall_mem_cons.mpr ⟨hkept _ hsaw, hpending⟩, fun u hu => ?_⟩
        rcases hthreads u hu with hu | ⟨hstays, t', ht', hdrifts⟩
        · exact .inl hu
        · exact .inr ⟨hstays, t', List.mem_cons_of_mem _ ht', hdrifts⟩
      · obtain ⟨new, threads, hr, hlength, hnew, hstay⟩ :=
          @exists_settle_cons p pos s t hsaw fuel pending
        have hunseen : (s.see t.address threads).unseen + 1 = s.unseen := Settled.unseen_see hsaw
        have hmeasure : 2 * (s.see t.address threads).unseen + (new ++ pending).length < fuel := by
          rw [List.length_append]
          omega
        have hsubset : s.threads ⊆ threads := by
          rcases hstay with ⟨rfl, -⟩ | ⟨rfl, -⟩
          · exact List.subset_cons_self ..
          · exact List.Subset.refl _
        have hstays : p.Stays t.address → t ∈ threads := by
          rcases hstay with ⟨rfl, -⟩ | ⟨-, hnot⟩
          · exact fun _ => List.mem_cons_self
          · exact fun h => absurd h hnot
        obtain ⟨hcovers, hkept, hpending, hthreads⟩ :=
          ih hmeasure (hs.follow (fun b => (hnew b).mp) hsubset hstays)
        rw [show r = _ from hr]
        refine ⟨hcovers, fun a ha => hkept a (Settled.saw_see.mpr (.inr ha)), ?_, fun u hu => ?_⟩
        · refine List.forall_mem_cons.mpr ⟨hkept _ (Settled.saw_see.mpr (.inl rfl)), ?_⟩
          exact fun u hu => hpending u (List.mem_append_right _ hu)
        · rcases hthreads u hu with hu | ⟨hstaysU, t', ht', hdrifts⟩
          · rcases hstay with ⟨rfl, hstayT⟩ | ⟨rfl, -⟩
            · rcases List.mem_cons.mp hu with rfl | hu
              · exact .inr ⟨hstayT, u, List.mem_cons_self, .refl⟩
              · exact .inl hu
            · exact .inl hu
          · rcases List.mem_append.mp ht' with ht' | ht'
            · have hstep := (hnew t'.address).mpr ⟨t', ht', rfl⟩
              exact .inr ⟨hstaysU, t, List.mem_cons_self, .head hstep hdrifts⟩
            · exact .inr ⟨hstaysU, t', List.mem_cons_of_mem _ ht', hdrifts⟩

open Relation in
/-- Threads are settled where they stay after drifting. -/
theorem exists_mem_settled_iff {threads : List Thread} {a : Nat} :
    (∃ t ∈ settled p pos threads, t.address = a) ↔
      p.Stays a ∧ ∃ t ∈ threads, ReflTransGen (p.Drifts pos) t.address a := by
  let s : Settled := ⟨Array.replicate p.code.size false, []⟩
  have hsaw (a : Nat) (ha : s.Saw a) : p.code[a]? = none := by
    refine Array.getElem?_eq_none (Nat.not_lt.mp fun hlt => ?_)
    simp [s, Settled.Saw, Array.getD_eq_getD_getElem?, hlt] at ha
  have hcovers : s.Covers p pos threads := by
    constructor
    · intro a ha hstays
      simp [Program.Stays, hsaw a ha] at hstays
    · rintro a b ha ⟨instruction, hat, -⟩
      rw [hsaw a ha] at hat
      contradiction
  have hunseen : s.unseen = p.code.size := by simp [s, Settled.unseen]
  obtain ⟨hend, -, hpending, hthreads⟩ :=
    settle_spec (2 * p.code.size + threads.length + 1) (by omega) hcovers
  rw [settled]
  simp only [List.mem_reverse]
  constructor
  · rintro ⟨t, ht, rfl⟩
    rcases hthreads t ht with hnone | hfound
    · exact absurd hnone List.not_mem_nil
    · exact hfound
  · rintro ⟨hstays, t, ht, hdrifts⟩
    refine hend.stays a ?_ hstays
    clear hstays
    induction hdrifts with
    | refl => exact hpending t ht
    | tail _ hstep ih =>
      rcases hend.drifts _ _ ih hstep with hseen | ⟨t', ht', -⟩
      · exact hseen
      · exact absurd ht' List.not_mem_nil

/-! ## Advancing -/

/-- Threads find a match when one of them accepts. -/
theorem isSome_found_advance {after : Option Char} {threads : List Thread} :
    (advance p after threads).2.isSome ↔ ∃ t ∈ threads, p.code[t.address]? = some .accept := by
  induction threads with
  | nil => simp [advance]
  | cons t rest ih =>
    rw [List.exists_mem_cons_iff, ← ih]
    cases hat : p.code[t.address]? with
    | none => simp [advance, hat]
    | some instruction =>
      cases instruction with
      | accept => simp [advance, hat]
      | consume members next =>
        simp only [advance, hat]
        split <;> simp
      | test | note | part => simp [advance, hat]

/-- Threads that find no match are all moved over a character that they consume. -/
theorem exists_mem_moved_advance_iff {after : Option Char} {threads : List Thread} {b : Nat}
    (h : (advance p after threads).2 = none) :
    (∃ t ∈ (advance p after threads).1, t.address = b) ↔
      ∃ t ∈ threads, ∃ members, p.code[t.address]? = some (.consume members b) ∧
        after.any members.contains := by
  induction threads with
  | nil => simp [advance]
  | cons t rest ih =>
    rw [List.exists_mem_cons_iff]
    cases hat : p.code[t.address]? with
    | none =>
      simp only [advance, hat] at h ⊢
      simp [ih h]
    | some instruction =>
      cases instruction with
      | accept => simp [advance, hat] at h
      | test | note | part =>
        simp only [advance, hat] at h ⊢
        simp [ih h]
      | consume members next =>
        simp only [advance, hat] at h ⊢
        split at h
        · next hmember =>
          rw [if_pos hmember, List.exists_mem_cons_iff, ih h]
          simp [hmember]
        · next hmember =>
          rw [if_neg hmember, ih h]
          simp [hmember]

/-! ## Searching -/

section Search

variable {text : List Char} {a i : Nat}

open Relation in
/-- A thread may come to accept when it drifts to where it accepts, or to where it consumes the next
character and may then come to accept. -/
theorem accepts_iff : Accepts text p.code a i ↔
    ∃ b, ReflTransGen (p.Drifts (.of text i)) a b ∧ (p.code[b]? = some .accept ∨
      ∃ members next, p.code[b]? = some (.consume members next) ∧
        (text[i]?).any members.contains ∧ Accepts text p.code next (i + 1)) := by
  constructor
  · intro h
    induction h with
    | here h => exact ⟨_, .refl, .inl h⟩
    | @step a i b j instruction hat hleads h ih =>
      cases instruction with
      | consume members next =>
        obtain ⟨rfl, rfl, c, hc, hmember⟩ := hleads
        exact ⟨a, .refl, .inr ⟨members, b, hat, by simp [hc, hmember], h⟩⟩
      | accept => exact hleads.elim
      | test condition next =>
        obtain ⟨rfl, rfl, hholds⟩ := hleads
        obtain ⟨k, hdrifts, hend⟩ := ih
        exact ⟨k, .head ⟨_, hat, hholds, rfl⟩ hdrifts, hend⟩
      | note slot next =>
        obtain ⟨rfl, rfl⟩ := hleads
        obtain ⟨k, hdrifts, hend⟩ := ih
        exact ⟨k, .head ⟨_, hat, rfl⟩ hdrifts, hend⟩
      | part preferred other =>
        obtain ⟨hb, rfl⟩ := hleads
        obtain ⟨k, hdrifts, hend⟩ := ih
        exact ⟨k, .head ⟨_, hat, hb⟩ hdrifts, hend⟩
  · rintro ⟨b, hdrifts, hend⟩
    induction hdrifts using ReflTransGen.head_induction_on with
    | refl =>
      rcases hend with haccept | ⟨members, next, hat, hmember, h⟩
      · exact .here haccept
      · cases hc : text[i]? with
        | none => simp [hc] at hmember
        | some c =>
          rw [hc] at hmember
          exact .step hat ⟨rfl, rfl, c, hc, hmember⟩ h
    | head hstep _ ih =>
      obtain ⟨instruction, hat, hstep⟩ := hstep
      cases instruction with
      | consume | accept => exact hstep.elim
      | test condition next => exact .step hat ⟨hstep.2, rfl, hstep.1⟩ ih
      | note slot next => exact .step hat ⟨hstep, rfl⟩ ih
      | part preferred other => exact .step hat ⟨hstep, rfl⟩ ih

/-- A choice of what was found before what was found earlier is something when either is. -/
theorem isSome_orElse {found best : Option Notes} :
    (found <|> best).isSome ↔ found.isSome ∨ best.isSome := by
  cases found <;> simp

/-- Once a match was found, a search ends with one. -/
theorem isSome_search_of_isSome {index : Nat} {before : Option Char} {threads : List Thread}
    {best : Option Notes} (rest : List Char) (h : best.isSome) :
    (search p index before threads best rest).isSome := by
  induction rest generalizing index before threads best with
  | nil => exact isSome_orElse.mpr (.inr h)
  | cons c rest ih =>
    simp only [search]
    generalize (if best.isNone = true then _ else _ : List Thread) = starting
    split
    · exact isSome_orElse.mpr (.inr h)
    · exact ih (isSome_orElse.mpr (.inr h))

/-- Of the threads at a position one may come to accept when a match is found there, or else when
one of those moved on may. -/
theorem exists_accepts_iff {threads : List Thread} :
    let advanced := advance p text[i]? (settled p (.of text i) threads)
    (∃ t ∈ threads, Accepts text p.code t.address i) ↔ advanced.2.isSome ∨
      advanced.2 = none ∧ ∃ t ∈ advanced.1, Accepts text p.code t.address (i + 1) := by
  intro advanced
  constructor
  · rintro ⟨t, ht, haccepts⟩
    obtain ⟨b, hdrifts, hend⟩ := accepts_iff.mp haccepts
    cases hfound : advanced.2 with
    | some notes => exact .inl rfl
    | none =>
      have hstays : p.Stays b := hend.imp_right fun ⟨members, next, hat, _⟩ => ⟨members, next, hat⟩
      obtain ⟨u, hu, rfl⟩ := exists_mem_settled_iff.mpr ⟨hstays, t, ht, hdrifts⟩
      rcases hend with haccept | ⟨members, next, hat, hmember, hnext⟩
      · have hsome : advanced.2.isSome := isSome_found_advance.mpr ⟨u, hu, haccept⟩
        rw [hfound] at hsome
        contradiction
      · obtain ⟨v, hv, rfl⟩ := (exists_mem_moved_advance_iff hfound).mpr
          ⟨u, hu, members, hat, hmember⟩
        exact .inr ⟨rfl, v, hv, hnext⟩
  · rintro (hfound | ⟨hfound, v, hv, hnext⟩)
    · obtain ⟨u, hu, haccept⟩ := isSome_found_advance.mp hfound
      obtain ⟨-, t, ht, hdrifts⟩ := exists_mem_settled_iff.mp ⟨u, hu, rfl⟩
      exact ⟨t, ht, accepts_iff.mpr ⟨_, hdrifts, .inl haccept⟩⟩
    · obtain ⟨u, hu, members, hat, hmember⟩ :=
        (exists_mem_moved_advance_iff hfound).mp ⟨v, hv, rfl⟩
      obtain ⟨-, t, ht, hdrifts⟩ := exists_mem_settled_iff.mp ⟨u, hu, rfl⟩
      exact ⟨t, ht, accepts_iff.mpr ⟨_, hdrifts, .inr ⟨members, _, hat, hmember, hnext⟩⟩⟩

/-- The threads that a search without a match goes on with at a position. -/
def starting (p : Program) (threads : List Thread) : List Thread := threads ++ [⟨p.entry, []⟩]

/-- What a thread may do is done by one there was or by the one that starts. -/
theorem exists_mem_starting_iff (can : Nat → Prop) {threads : List Thread} :
    (∃ t ∈ starting p threads, can t.address) ↔ (∃ t ∈ threads, can t.address) ∨ can p.entry := by
  simp only [starting, List.mem_append, List.mem_singleton]
  grind

/-- A search that has found no match finds one when one of its threads may come to accept, or one
that starts at the position or a later one. -/
theorem isSome_search_iff (threads : List Thread) (rest : List Char) (hrest : text.drop i = rest)
    (hi : i ≤ text.length) :
    (search p i (charBefore text i) threads none rest).isSome ↔
      (∃ t ∈ threads, Accepts text p.code t.address i) ∨
        ∃ j, i ≤ j ∧ j ≤ text.length ∧ Accepts text p.code p.entry j := by
  induction rest generalizing i threads with
  | nil =>
    obtain rfl : i = text.length := Nat.le_antisymm hi (List.drop_eq_nil_iff.mp hrest)
    have hnone : text[text.length]? = none := List.getElem?_eq_none (Nat.le_refl _)
    let advanced := advance p text[text.length]?
      (settled p (.of text text.length) (starting p threads))
    have hmoved : ¬ (advanced.2 = none ∧
        ∃ t ∈ advanced.1, Accepts text p.code t.address (text.length + 1)) := by
      rintro ⟨hfound, t, ht, -⟩
      obtain ⟨_, _, _, _, hmember⟩ := (exists_mem_moved_advance_iff hfound).mp ⟨t, ht, rfl⟩
      simp at hmember
    have hsearch : (search p text.length (charBefore text text.length) threads none []).isSome ↔
        advanced.2.isSome := by
      simp only [search, Option.isNone_none, ↓reduceIte, isSome_orElse, advanced, starting,
        Position.of, hnone]
      simp
    have hlast : (∃ j, text.length ≤ j ∧ j ≤ text.length ∧ Accepts text p.code p.entry j) ↔
        Accepts text p.code p.entry text.length := by
      constructor
      · rintro ⟨j, hle, hge, h⟩
        exact Nat.le_antisymm hge hle ▸ h
      · exact fun h => ⟨_, Nat.le_refl _, Nat.le_refl _, h⟩
    calc _ ↔ advanced.2.isSome := hsearch
      _ ↔ ∃ t ∈ starting p threads, Accepts text p.code t.address text.length :=
        (or_iff_left hmoved).symm.trans exists_accepts_iff.symm
      _ ↔ _ := by rw [exists_mem_starting_iff (Accepts text p.code · text.length), hlast]
  | cons c rest ih =>
    have hsome : text[i]? = some c := by
      rw [← List.head?_drop, hrest, List.head?_cons]
    have hlt : i < text.length := (List.getElem?_eq_some_iff.mp hsome).1
    have hdrop : text.drop (i + 1) = rest := by
      rw [← List.tail_drop, hrest, List.tail_cons]
    let advanced := advance p text[i]? (settled p (.of text i) (starting p threads))
    have hsearch : (search p i (charBefore text i) threads none (c :: rest)).isSome ↔
        advanced.2.isSome ∨ advanced.2 = none ∧
          (search p (i + 1) (charBefore text (i + 1)) advanced.1 none rest).isSome := by
      have hunfold : search p i (charBefore text i) threads none (c :: rest) =
          if advanced.1.isEmpty && (advanced.2 <|> none).isSome then advanced.2 <|> none
          else search p (i + 1) (some c) advanced.1 (advanced.2 <|> none) rest := by
        simp only [search, Option.isNone_none, ↓reduceIte, advanced, starting, Position.of, hsome]
      have hbefore : charBefore text (i + 1) = some c := hsome
      rw [hunfold, hbefore]
      cases hfound : advanced.2 with
      | none => simp
      | some notes =>
        split
        · simp
        · simpa using isSome_search_of_isSome rest rfl
    have hlater : (∃ j, i ≤ j ∧ j ≤ text.length ∧ Accepts text p.code p.entry j) ↔
        Accepts text p.code p.entry i ∨
          ∃ j, i + 1 ≤ j ∧ j ≤ text.length ∧ Accepts text p.code p.entry j := by
      constructor
      · rintro ⟨j, hle, hge, h⟩
        rcases Nat.eq_or_lt_of_le hle with rfl | hlt
        · exact .inl h
        · exact .inr ⟨j, hlt, hge, h⟩
      · rintro (h | ⟨j, hle, hge, h⟩)
        · exact ⟨i, Nat.le_refl _, hi, h⟩
        · exact ⟨j, Nat.le_of_succ_le hle, hge, h⟩
    have hhere : (∃ t ∈ threads, Accepts text p.code t.address i) ∨ Accepts text p.code p.entry i ↔
        advanced.2.isSome ∨
          advanced.2 = none ∧ ∃ t ∈ advanced.1, Accepts text p.code t.address (i + 1) :=
      (exists_mem_starting_iff (Accepts text p.code · i)).symm.trans exists_accepts_iff
    rw [hsearch, ih _ hdrop hlt, hlater, ← or_assoc, hhere]
    cases advanced.2 <;> simp

end Search

/-- A pattern matches somewhere in a text when its program may come to accept from some position. -/
theorem Program.matchesIn_iff (p : Program) (text : List Char) :
    p.matchesIn text ↔ ∃ i ≤ text.length, Accepts text p.code p.entry i := by
  refine (isSome_search_iff [] text List.drop_zero (Nat.zero_le _)).trans ?_
  simp

end GridAudit.Pattern
