import Mathlib.Data.List.Induction
import Mathlib.Logic.Function.Basic
import GridAudit.Grid.Ledger

/-!
# The ledger as a map

Reading a ledger after each of its operations. A ledger answers like a map from cells to verdicts:
growing it changes no answer, recording a verdict changes the answer for one cell, and a list of
verdicts recorded in turn answers for its cells and leaves the others. To record what is recorded
already leaves the ledger as it is, place by place.

After any run of operations the answer for a cell is the verdict that was recorded for it last,
unless it was forgotten since; the operations that do not concern the cell could be left out.
-/

namespace GridAudit

/-- Two cells are the same when their indices are. -/
theorem CellId.index_inj {id id' : CellId} : id.index = id'.index ↔ id = id' := UInt32.toNat_inj

namespace Ledger

/-- Growing a ledger changes no verdict. -/
@[simp] theorem get?_ensure (l : Ledger) (size : Nat) (id : CellId) :
    (l.ensure size).get? id = l.get? id := by
  simp only [get?, ensure, List.getElem?_append, List.getElem?_replicate]
  split
  · rfl
  · split <;> simp_all

/-- A ledger with room for a cell has a place for it. -/
theorem index_lt_length_ensure (l : Ledger) (id : CellId) :
    id.index < (l.ensure (id.index + 1)).verdicts.length := by
  simp only [ensure, List.length_append, List.length_replicate]
  omega

/-- A recorded verdict is the answer for its cell alone. -/
theorem get?_insert (l : Ledger) (id id' : CellId) (v : Verdict) :
    (l.insert id v).get? id' = if id = id' then some v else l.get? id' := by
  have hroom := l.index_lt_length_ensure id
  rw [← l.get?_ensure (id.index + 1) id']
  by_cases h : id = id'
  · subst h
    simp [get?, insert, hroom]
  · simp [get?, insert, CellId.index_inj, h]

/-- A ledger reset to any size holds no verdict. -/
@[simp] theorem get?_reset (size : Nat) (id : CellId) : (reset size).get? id = none := by
  simp only [get?, reset, List.getElem?_replicate]
  split <;> rfl

/-- Forgetting the verdicts of cells leaves the answers for the others. -/
theorem get?_invalidate (l : Ledger) (ids : List CellId) (id : CellId) :
    (l.invalidate ids).get? id = if id ∈ ids then none else l.get? id := by
  induction ids generalizing l with
  | nil => rfl
  | cons first rest ih =>
    have hfirst : get? ⟨l.verdicts.set first.index none⟩ id =
        if first = id then none else l.get? id := by
      by_cases h : first = id
      · subst h
        simp only [get?, List.getElem?_set_self', ↓reduceIte]
        cases l.verdicts[first.index]? <;> rfl
      · simp [get?, CellId.index_inj, h]
    change (invalidate ⟨l.verdicts.set first.index none⟩ rest).get? id = _
    rw [ih, hfirst]
    by_cases hrest : id ∈ rest
    · simp [hrest]
    · simp [hrest, eq_comm]

/-- Verdicts recorded for a list of cells are the answers for these cells alone. -/
theorem get?_foldl_insert (f : CellId → Verdict) (ids : List CellId) (l : Ledger) (id : CellId) :
    ((ids.map fun i => (i, f i)).foldl (fun l v => l.insert v.1 v.2) l).get? id =
      if id ∈ ids then some (f id) else l.get? id := by
  induction ids generalizing l with
  | nil => rfl
  | cons first rest ih =>
    rw [List.map_cons, List.foldl_cons, ih, get?_insert]
    by_cases hrest : id ∈ rest
    · simp [hrest]
    · by_cases hfirst : first = id
      · simp [hfirst]
      · simp [hrest, hfirst, Ne.symm hfirst]

/-- To record the verdict that a cell has changes nothing. -/
theorem insert_eq_self {l : Ledger} {id : CellId} {v : Verdict} (h : l.get? id = some v) :
    l.insert id v = l := by
  have hplace : l.verdicts[id.index]? = some (some v) := Option.join_eq_some_iff.mp h
  obtain ⟨hroom, hv⟩ := List.getElem?_eq_some_iff.mp hplace
  have hensure : l.ensure (id.index + 1) = l := by
    rw [ensure, Nat.sub_eq_zero_of_le hroom, List.replicate_zero, List.append_nil]
  rw [insert, hensure, ← hv, List.set_getElem_self]

/-- To record the verdicts that cells have changes nothing. -/
theorem foldl_insert_eq_self {f : CellId → Verdict} {ids : List CellId} {l : Ledger}
    (h : ∀ id ∈ ids, l.get? id = some (f id)) :
    (ids.map fun id => (id, f id)).foldl (fun l v => l.insert v.1 v.2) l = l := by
  induction ids with
  | nil => rfl
  | cons first rest ih =>
    obtain ⟨hfirst, hrest⟩ := List.forall_mem_cons.mp h
    rw [List.map_cons, List.foldl_cons, insert_eq_self hfirst, ih hrest]

/-! ## Runs of operations -/

/-- A change to a ledger. -/
inductive Operation
  | insert (id : CellId) (v : Verdict)
  | invalidate (ids : List CellId)
  | reset (size : Nat)
  | ensure (size : Nat)

/-- The ledger after an operation. -/
def apply (l : Ledger) : Operation → Ledger
  | .insert id v => l.insert id v
  | .invalidate ids => l.invalidate ids
  | .reset size => reset size
  | .ensure size => l.ensure size

/-- The ledger after operations in turn, of which the first finds it empty. -/
def after (operations : List Operation) : Ledger := operations.foldl apply empty

namespace Operation

/-- What an operation does to a map from cells to verdicts. -/
def onMap (m : CellId → Option Verdict) : Operation → CellId → Option Verdict
  | insert id v => Function.update m id (some v)
  | invalidate ids => fun id => if id ∈ ids then none else m id
  | reset _ => fun _ => none
  | ensure _ => m

/-- Whether an operation records or forgets the verdict of a cell. -/
def concerns (id : CellId) : Operation → Bool
  | insert id' _ => id' = id
  | invalidate ids => ids.contains id
  | reset _ => true
  | ensure _ => false

/-- A map keeps its value at a cell that an operation does not concern. -/
theorem onMap_of_not_concerns {op : Operation} {id : CellId} (h : op.concerns id = false)
    (m : CellId → Option Verdict) : op.onMap m id = m id := by
  cases op with
  | insert id' v =>
    have hne : id ≠ id' := Ne.symm (of_decide_eq_false h)
    exact Function.update_of_ne hne _ _
  | invalidate ids =>
    have hid : id ∉ ids := by simpa [concerns] using h
    exact if_neg hid
  | reset size => contradiction
  | ensure size => rfl

/-- A map that an operation gave a value at a cell was given it there, or had it and was left it. -/
theorem onMap_eq_some_iff {op : Operation} {m : CellId → Option Verdict} {id : CellId}
    {v : Verdict} :
    op.onMap m id = some v ↔ op = insert id v ∨ op.concerns id = false ∧ m id = some v := by
  by_cases h : op.concerns id = false
  · have hop : op ≠ insert id v := by
      rintro rfl
      simp [concerns] at h
    simp [onMap_of_not_concerns h, hop, h]
  · cases op with
    | insert id' v' =>
      obtain rfl : id' = id := by simpa [concerns] using h
      simp [onMap, concerns]
    | invalidate ids =>
      have hid : id ∈ ids := by simpa [concerns] using h
      simp [onMap, concerns, hid]
    | reset size => simp [onMap, concerns]
    | ensure size => exact absurd rfl h

end Operation

/-- A ledger answers after an operation like the map that the operation makes of its answers. -/
theorem get?_apply (l : Ledger) (op : Operation) : (l.apply op).get? = op.onMap l.get? := by
  funext id
  cases op with
  | insert id' v =>
    rw [apply, get?_insert, Operation.onMap, Function.update_apply]
    simp only [eq_comm]
  | invalidate ids => exact l.get?_invalidate ids id
  | reset size => exact get?_reset size id
  | ensure size => exact l.get?_ensure size id

/-- Another operation changes what those before it left. -/
theorem after_concat (operations : List Operation) (op : Operation) :
    after (operations ++ [op]) = (after operations).apply op := by
  rw [after, List.foldl_append]
  rfl

/-- A run leaves a ledger that answers like the map the run makes of the empty one. -/
theorem get?_after (operations : List Operation) :
    (after operations).get? = operations.foldl Operation.onMap fun _ => none := by
  induction operations using List.reverseRecOn with
  | nil => rfl
  | append_singleton before op ih =>
    rw [after_concat, get?_apply, ih, List.foldl_append]
    rfl

/-- A verdict was recorded for a cell, and no operation after that concerns the cell. -/
def LastRecorded (operations : List Operation) (id : CellId) (v : Verdict) : Prop :=
  ∃ before since, operations = before ++ .insert id v :: since ∧
    ∀ op ∈ since, op.concerns id = false

/-- Without operations nothing was recorded. -/
theorem not_lastRecorded_nil (id : CellId) (v : Verdict) : ¬ LastRecorded [] id v := by
  rintro ⟨before, since, h, -⟩
  simp at h

/-- What was recorded last is what the last operation records, or what was before if that one does
not concern the cell. -/
theorem lastRecorded_concat {operations : List Operation} {op : Operation} {id : CellId}
    {v : Verdict} : LastRecorded (operations ++ [op]) id v ↔
      op = .insert id v ∨ op.concerns id = false ∧ LastRecorded operations id v := by
  constructor
  · rintro ⟨before, since, h, hsince⟩
    cases since using List.reverseRecOn with
    | nil =>
      obtain ⟨-, hop⟩ := List.append_inj' h rfl
      exact .inl (List.singleton_inj.mp hop)
    | append_singleton since last =>
      rw [← List.cons_append, ← List.append_assoc] at h
      obtain ⟨hoperations, hop⟩ := List.append_inj' h rfl
      obtain rfl := List.singleton_inj.mp hop
      exact .inr ⟨hsince op (by simp), before, since, hoperations,
        fun o ho => hsince o (List.mem_append_left _ ho)⟩
  · rintro (rfl | ⟨hop, before, since, rfl, hsince⟩)
    · exact ⟨operations, [], rfl, List.forall_mem_nil _⟩
    · refine ⟨before, since ++ [op], by simp, ?_⟩
      intro o ho
      rcases List.mem_append.mp ho with ho | ho
      · exact hsince o ho
      · rwa [List.mem_singleton.mp ho]

/-- After a run a cell has the verdict that was recorded last for it. -/
theorem get?_after_eq_some_iff {operations : List Operation} {id : CellId} {v : Verdict} :
    (after operations).get? id = some v ↔ LastRecorded operations id v := by
  induction operations using List.reverseRecOn with
  | nil => simp [not_lastRecorded_nil, after, empty, get?]
  | append_singleton before op ih =>
    rw [after_concat, get?_apply, Operation.onMap_eq_some_iff, lastRecorded_concat, ih]

/-- Operations that do not concern a cell may be left out of a run. -/
theorem get?_after_filter (operations : List Operation) (id : CellId) :
    (after (operations.filter (·.concerns id))).get? id = (after operations).get? id := by
  induction operations using List.reverseRecOn with
  | nil => rfl
  | append_singleton before op ih =>
    rw [List.filter_append, after_concat, get?_apply]
    cases h : op.concerns id with
    | true =>
      rw [List.filter_cons_of_pos h, List.filter_nil, after_concat, get?_apply]
      apply Option.ext
      intro v
      rw [Operation.onMap_eq_some_iff, Operation.onMap_eq_some_iff, ih]
    | false =>
      rw [List.filter_cons_of_neg (by simp [h]), List.filter_nil, List.append_nil, ih,
        Operation.onMap_of_not_concerns h]

/-- What the ledger after a run answers for a cell. A cell whose check came to nothing has the
verdict `invalid`, which is an answer; a cell that was not checked has none. -/
structure TellsLast (operations : List Operation) (id : CellId) : Prop where
  /-- A verdict is the answer when it was recorded and the cell was not concerned since. -/
  recorded : ∀ v, (after operations).get? id = some v ↔ LastRecorded operations id v
  /-- There is no answer when there is no such verdict. -/
  unrecorded : (after operations).get? id = none ↔ ∀ v, ¬ LastRecorded operations id v
  /-- A map on which the operations act instead, without places or a size, has the same value. -/
  asMap : (after operations).get? id = operations.foldl Operation.onMap (fun _ => none) id
  /-- Operations that do not concern the cell make no difference. -/
  others : (after (operations.filter (·.concerns id))).get? id = (after operations).get? id

/-- After every run of operations the ledger tells of every cell what was recorded last. -/
theorem tellsLast_after (operations : List Operation) (id : CellId) : TellsLast operations id where
  recorded _ := get?_after_eq_some_iff
  unrecorded := by
    rw [Option.eq_none_iff_forall_ne_some]
    exact forall_congr' fun v => not_congr get?_after_eq_some_iff
  asMap := congrFun (get?_after operations) id
  others := get?_after_filter operations id

/-- A check that came to nothing is remembered while places beyond the end are named and the ledger
grows; what was recorded before a reset is not, although its place is there again. -/
example : let operations : List Operation :=
      [.insert 9 .valid, .reset 2, .insert 7 .invalid, .invalidate [1, 40, 1], .ensure 12]
    (after operations).get? 7 = some .invalid ∧ (after operations).get? 9 = none := by decide

end Ledger

end GridAudit
