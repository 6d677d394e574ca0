import Mathlib.Algebra.Order.Group.Nat
import Mathlib.Data.List.Nodup
import Mathlib.Data.List.Perm.Subperm
import Mathlib.Data.Nat.Find
import GridAudit.Registry

/-!
# Free names

The names made of a base differ from one another: the base is shorter than the others, and these end
in the digits of different numbers. A registry has too few factories to take all of the first names
that are tried, so the search for a free one comes to an end, and the counter of 32 bits lasts that
long when there are fewer than 2 ^ 31 factories. What the search finds is the first free name, so no
factory of that name is refused as registered before.
-/

namespace GridAudit

namespace Registry

variable {r : Registry} {base : String}

/-! ## The names that are tried -/

/-- The names that are tried, in order: the base, and then the base with the numbers from one on. -/
def nameAt (base : String) : Nat → String
  | 0 => base
  | k + 1 => s!"{base}_{k + 1}"

/-- The characters of a name with a number. -/
theorem toList_nameAt_succ (k : Nat) :
    (nameAt base (k + 1)).toList = base.toList ++ '_' :: Nat.toDigits 10 (k + 1) := by
  change (base ++ "_" ++ toString (k + 1)).toList = _
  simp

/-- A name with a number is longer than its base. -/
theorem nameAt_succ_ne (k : Nat) : nameAt base (k + 1) ≠ base := by
  intro h
  have hlength := congrArg (fun name => name.toList.length) h
  simp [toList_nameAt_succ] at hlength

/-- No two of the names are the same, whatever the base ends in. -/
theorem nameAt_injective (base : String) : Function.Injective (nameAt base) := by
  intro i j h
  cases i with
  | zero =>
    cases j with
    | zero => rfl
    | succ j => exact absurd h.symm (nameAt_succ_ne j)
  | succ i =>
    cases j with
    | zero => exact absurd h (nameAt_succ_ne i)
    | succ j =>
      have hchars := congrArg String.toList h
      rw [toList_nameAt_succ, toList_nameAt_succ] at hchars
      -- Behind the base and the mark stand the digits alone, from which the number is read back.
      have hdigits := (List.cons.inj (List.append_cancel_left hchars)).2
      have hvalue := congrArg (Nat.ofDigitChars 10 · 0) hdigits
      simpa using hvalue

/-- The counter makes the names in their order as long as it does not wrap around. -/
theorem numberedName_ofNat {k : Nat} (h : k + 1 < 0x80000000) :
    numberedName base (Int32.ofNat (k + 1)) = nameAt base (k + 1) := by
  rw [numberedName, Int32.toInt_ofNat_of_lt h]
  rfl

/-! ## The search -/

/-- A name is taken when a factory has it. -/
theorem isTaken_iff {name : String} : r.isTaken name ↔ name ∈ r.names := by
  simp [isTaken, names]

/-- One of the first names is free: there are more of these than factories. -/
theorem exists_nameAt_notMem (r : Registry) (base : String) :
    ∃ k ≤ r.count, nameAt base k ∉ r.names := by
  by_contra hall
  have htaken : ∀ k ≤ r.count, nameAt base k ∈ r.names := by simpa using hall
  let tried := (List.range (r.count + 1)).map (nameAt base)
  have hnodup : tried.Nodup := List.Nodup.map (nameAt_injective base) List.nodup_range
  have hsubset : tried ⊆ r.names := by
    intro name hname
    obtain ⟨k, hk, rfl⟩ := List.mem_map.mp hname
    exact htaken k (Nat.le_of_lt_succ (List.mem_range.mp hk))
  have hlength := (List.subperm_of_subset hnodup hsubset).length_le
  simp [tried, names, count] at hlength

/-- A lookup that finds its name taken goes on to the next name. -/
theorem freeName?_succ_of_mem {k : Nat} (h : k + 1 < 0x80000000) (htaken : nameAt base k ∈ r.names)
    (lookups : Nat) :
    r.freeName? base (nameAt base k) (Int32.ofNat (k + 1)) (lookups + 1) =
      r.freeName? base (nameAt base (k + 1)) (Int32.ofNat (k + 1 + 1)) lookups := by
  rw [freeName?, if_pos (isTaken_iff.mpr htaken), numberedName_ofNat h, Int32.ofNat_add (k + 1) 1]
  rfl

/-- A lookup that finds its name free ends the search. -/
theorem freeName?_succ_of_notMem {candidate : String} {number : Int32}
    (hfree : candidate ∉ r.names) (lookups : Nat) :
    r.freeName? base candidate number (lookups + 1) = some candidate := by
  rw [freeName?, if_neg (mt isTaken_iff.mp hfree)]

/-- A search that starts at a name finds the first free one from there on, with a lookup for each
name up to it and no fewer. -/
theorem freeName?_nameAt {k : Nat} (h : k < 0x80000000) (hfree : nameAt base k ∉ r.names)
    {start : Nat} (hstart : start ≤ k) (htaken : ∀ i, start ≤ i → i < k → nameAt base i ∈ r.names)
    (lookups : Nat) :
    r.freeName? base (nameAt base start) (Int32.ofNat (start + 1)) lookups =
      if k - start < lookups then some (nameAt base k) else none := by
  -- Each lookup moves the start one name on, so the induction is for all starts.
  induction lookups generalizing start with
  | zero => rfl
  | succ lookups ih =>
    rcases Nat.eq_or_lt_of_le hstart with rfl | hlt
    · rw [freeName?_succ_of_notMem hfree, if_pos (by omega)]
    · rw [freeName?_succ_of_mem (by omega) (htaken start le_rfl hlt),
        ih hlt fun i hi hik => htaken i (by omega) hik]
      have hone : k - (start + 1) < lookups ↔ k - start < lookups + 1 := by omega
      simp only [hone]

/-- The search for a free name made of a base ends at the name of a place in the order. -/
structure FindsFree (r : Registry) (base : String) (k : Nat) : Prop where
  /-- There are at most as many names before it as factories. -/
  le_count : k ≤ r.count
  /-- No factory has the name. -/
  free : nameAt base k ∉ r.names
  /-- The names before it are taken. -/
  taken : ∀ i < k, nameAt base i ∈ r.names
  /-- The search looks up the names up to it: it has not ended before that, and does not go on. -/
  ends : ∀ lookups, r.freeName? base base 1 lookups =
    if k < lookups then some (nameAt base k) else none
  /-- It is the answer. -/
  answer : r.uniqueName base = nameAt base k
  /-- A factory of that name is not refused as registered before. -/
  registers : ∀ f : Factory, f.name = r.uniqueName base → ∀ name,
    r.register f ≠ .error (.duplicateFactory name)

/-- A factory is refused as registered before only if its name is taken. -/
theorem mem_names_of_register_eq_duplicate {f : Factory} {name : String}
    (h : r.register f = .error (.duplicateFactory name)) : f.name ∈ r.names := by
  unfold register at h
  split at h
  · next e hrefusal =>
    obtain rfl := Except.error.inj h
    unfold refusal? at hrefusal
    split at hrefusal
    · next htaken => exact isTaken_iff.mp htaken
    · split at hrefusal
      · split at hrefusal <;> simp at hrefusal
      · split at hrefusal <;> simp at hrefusal
  · contradiction

/-- With fewer than 2 ^ 31 factories the search for a free name ends at the first one there is,
after at most one lookup more than there are factories. The number is raised as soon as a name is
made of it: with 2 ^ 31 - 1 factories that all stand in the way it wraps around behind the last
name, which changes nothing as no further name is made. A build with overflow checks stops there
instead. -/
theorem exists_findsFree (r : Registry) (base : String) (h : r.count < 0x80000000) :
    ∃ k, r.FindsFree base k := by
  have hexists : ∃ k, nameAt base k ∉ r.names := by
    obtain ⟨k, -, hk⟩ := r.exists_nameAt_notMem base
    exact ⟨k, hk⟩
  have hle : Nat.find hexists ≤ r.count := by
    obtain ⟨k, hk, hfree⟩ := r.exists_nameAt_notMem base
    exact (Nat.find_min' hexists hfree).trans hk
  have hfree := Nat.find_spec hexists
  have htaken : ∀ i < Nat.find hexists, nameAt base i ∈ r.names := fun i hi =>
    not_not.mp (Nat.find_min hexists hi)
  have hends (lookups : Nat) : r.freeName? base base 1 lookups =
      if Nat.find hexists < lookups then some (nameAt base (Nat.find hexists)) else none :=
    freeName?_nameAt (by omega) hfree (Nat.zero_le _) (fun i _ hi => htaken i hi) lookups
  have hanswer : r.uniqueName base = nameAt base (Nat.find hexists) := by
    rw [uniqueName, hends, if_pos (by omega), Option.getD_some]
  refine ⟨Nat.find hexists, hle, hfree, htaken, hends, hanswer, ?_⟩
  intro f hf name hduplicate
  apply hfree
  rw [← hanswer, ← hf]
  exact mem_names_of_register_eq_duplicate hduplicate

/-- A registry with three factories whose names are made of one base. -/
def copies : Registry where
  natives := []
  factories := ["Copy", "Copy_1", "Copy_3"].map fun name =>
    .define name "" .matcher [] (.native "x")
  optimize := true

/-- The search among the names of `copies` ends at the gap. -/
theorem findsFree_copies : copies.count < 0x80000000 ∧ copies.FindsFree "Copy" 2 := by
  obtain ⟨k, hk⟩ := exists_findsFree copies "Copy" (by decide)
  have hanswer : copies.uniqueName "Copy" = nameAt "Copy" 2 := by decide +kernel
  obtain rfl := nameAt_injective "Copy" (hk.answer.symm.trans hanswer)
  exact ⟨by decide, hk⟩

/-- A base that ends in a number is numbered itself. -/
example : copies.uniqueName "Copy_1" = "Copy_1_1" := by decide +kernel

end Registry

end GridAudit
