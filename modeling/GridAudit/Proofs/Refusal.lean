import GridAudit.Proofs.Trial

/-!
# Refused requests change nothing

A request that edits a sheet does so first and checks cells afterwards. In a reachable workbook the
check never fails: it looks up the sheet that was just put, and after a text was written, the cell
that just took it. So a request is refused only before anything is written, and a refused one leaves
the whole workbook as it was, with its verdicts and the last report.
-/

namespace GridAudit

/-- The failure of a result, if it is one. -/
def failure? {ε α : Type} : Except ε α → Option ε
  | .ok _ => none
  | .error e => some e

/-- Why a request is refused, if it is. -/
def Reply.refusal? {α : Type} (r : Reply α) : Option SheetError := failure? r.answer

namespace Workbook

/-- Why a workbook refuses a request, if it does. -/
def refusal? (b : Workbook) (vars : Variables) : Request → Option SheetError
  | .addSheet name columns => (b.addSheet name columns).refusal?
  | .setPropagationDepth _ => none
  | .attach name range rules => (b.attach vars name range rules).refusal?
  | .loadRows name rows => (b.loadRows vars name rows).refusal?
  | .insertRows name place rows => (b.insertRows vars name place rows).refusal?
  | .removeRows name place count => (b.removeRows vars name place count).refusal?
  | .insertColumn name place fill => (b.insertColumn vars name place fill).refusal?
  | .removeColumn name place => (b.removeColumn vars name place).refusal?
  | .setValueAt name row column text => (b.setValueAt vars name row column text).refusal?
  | .tryValueAt name row column text => (b.tryValueAt vars name row column text).refusal?
  | .recomputeAll name => (b.recomputeAll vars name).refusal?
  | .recomputeRow name row => (b.recomputeRow vars name row).refusal?

end Workbook

/-- The sheet that a request edits before any cell is checked, and the edit. -/
def Request.edit? : Request → Option (String × (Sheet → Except SheetError Sheet))
  | .attach name range rules => some (name, fun s => s.attach range rules)
  | .loadRows name rows => some (name, fun s => s.loadRows rows)
  | .insertRows name place rows => some (name, fun s => s.insertRows place rows)
  | .removeRows name place count => some (name, fun s => s.removeRows place count)
  | .insertColumn name place fill => some (name, fun s => s.insertColumn place fill)
  | .removeColumn name place => some (name, fun s => s.removeColumn place)
  | .setValueAt name row column text => some (name, fun s => s.setCell row column text)
  | .addSheet _ _ | .setPropagationDepth _ | .tryValueAt _ _ _ _ | .recomputeAll _
  | .recomputeRow _ _ => none

/-! ## Replies that go on from what was found -/

/-- A reply that is refused exactly when something was not found, and then leaves the workbook. -/
def Reply.Follows {α β : Type} (b : Workbook) (found : Except SheetError β) (r : Reply α) : Prop :=
  match found with
  | .ok _ => r.refusal? = none
  | .error e => r = ⟨b, .error e⟩

namespace Reply.Follows

variable {α β γ : Type} {b : Workbook} {found : Except SheetError β} {r : Reply α}

/-- Such a reply is refused for the same reason. -/
theorem refusal?_eq (h : r.Follows b found) : r.refusal? = failure? found := by
  cases found with
  | ok a => exact h
  | error e => exact congrArg refusal? h

/-- Such a reply leaves the workbook when it is refused. -/
theorem book_eq (h : r.Follows b found) {e : SheetError} (he : r.refusal? = some e) :
    r.book = b := by
  cases found with
  | ok a =>
    have hnone : r.refusal? = none := h
    rw [hnone] at he
    contradiction
  | error e => exact congrArg Reply.book h

/-- Going on from what was found to a reply that follows what is found next. -/
theorem goOn {next : β → Reply α} {more : β → Except SheetError γ}
    (h : ∀ a, found = .ok a → (next a).Follows b (more a)) :
    (b.goOn found next).Follows b (found >>= more) := by
  cases found with
  | ok a => exact h a rfl
  | error e => rfl

/-- Going on from what was found to a reply that is never refused. -/
theorem goOn_answered {next : β → Reply α}
    (h : ∀ a, found = .ok a → (next a).refusal? = none) :
    (b.goOn found next).Follows b found := by
  cases found with
  | ok a => exact h a rfl
  | error e => rfl

end Reply.Follows

namespace Workbook

variable {b : Workbook} {vars : Variables}

/-- A check of cells is never refused. -/
theorem refusal?_checkCells (b : Workbook) (vars : Variables) (trial : Option Trial) (s : Sheet)
    (ids : List CellId) (propagated : Nat) :
    (b.checkCells vars trial s ids propagated).refusal? = none := rfl

/-- A sheet is found under a name when the lookup succeeds. -/
theorem sheet_eq_ok {name : String} {s : Sheet} :
    b.sheet name = .ok s ↔ b.sheet? name = some s := by
  unfold sheet
  cases b.sheet? name <;> simp

/-- An edit whose check is never refused is refused when the change is. -/
theorem follows_edit {name : String} {change : Sheet → Except SheetError Sheet}
    {check : Workbook → Reply Report}
    (h : ∀ s s', b.sheet? name = some s → change s = .ok s' →
      (check (b.putSheet s')).refusal? = none) :
    (b.edit name change check).Follows b (b.sheet name >>= change) :=
  .goOn fun _ hs => .goOn_answered fun _ hs' => h _ _ (sheet_eq_ok.mp hs) hs'

/-- A change that makes a sheet anew is followed by a check that is never refused. -/
theorem follows_reshape {name : String} {change : Sheet → Except SheetError Sheet}
    (hchange : ∀ s s', change s = .ok s' → s.Remade s') :
    (b.reshape vars name change).Follows b (b.sheet name >>= change) := by
  refine follows_edit fun s s' hs hs' => ?_
  obtain rfl := name_of_sheet? hs
  rw [recomputeAll_putSheet hs (hchange s s' hs').name]
  exact refusal?_checkCells ..

/-- A check of a cell and the cells it reaches is refused where the sheet has no such cell. -/
theorem follows_recomputeFrom (name : String) (row column : Nat) (trial : Option String) :
    (b.recomputeFrom vars name row column trial).Follows b
      (b.sheet name >>= fun s => s.cellId row column) :=
  .goOn fun _ _ => .goOn_answered fun _ _ => refusal?_checkCells ..

/-- A write is refused where there is no text to replace: a cell that takes a text has a number. -/
theorem follows_setValueAt (hb : b.WellFormed) (name : String) (row column : Nat) (text : String) :
    (b.setValueAt vars name row column text).Follows b
      (b.sheet name >>= fun s => s.setCell row column text) := by
  refine follows_edit fun s s' hs hs' => ?_
  obtain rfl := name_of_sheet? hs
  obtain ⟨hold, rfl⟩ := Sheet.setCell_eq_ok.mp hs'
  obtain ⟨hrow, hcolumn⟩ := (hb.sheets s (mem_of_sheet? hs)).exists_text?_iff.mp hold
  have hfound := sheet?_putSheet_self hs (s.name_write row column text)
  rw [(follows_recomputeFrom s.name row column none).refusal?_eq, sheet_eq_ok.mpr hfound]
  have hcell : (s.write row column text).cellId row column = .ok (s.numberOf row column) := by
    rw [Sheet.cellId_write]
    exact Sheet.cellId_eq_ok.mpr ⟨hrow, hcolumn, rfl⟩
  exact congrArg failure? hcell

/-- A trial is refused where the sheet has no such cell, since checked cells have verdicts. -/
theorem follows_tryValueAt (name : String) (row column : Nat) (text : String) :
    (b.tryValueAt vars name row column text).Follows b
      (b.sheet name >>= fun s => s.cellId row column) := by
  cases hcell : b.sheet name >>= fun s => s.cellId row column with
  | error e =>
    have hchecked : (b.recomputeFrom vars name row column (some text)).Follows b
        (b.sheet name >>= fun s => s.cellId row column) := follows_recomputeFrom ..
    rw [hcell] at hchecked
    have hreply : b.recomputeFrom vars name row column (some text) = ⟨b, .error e⟩ := hchecked
    simp only [tryValueAt, hreply]
    rfl
  | ok id =>
    obtain ⟨s, hs, hid⟩ := bind_eq_ok.mp hcell
    have hs := sheet_eq_ok.mp hs
    obtain rfl := name_of_sheet? hs
    obtain ⟨hrow, hcolumn, -⟩ := Sheet.cellId_eq_ok.mp hid
    obtain ⟨v, hanswer, -⟩ := exists_answer_tryValueAt hs hrow hcolumn text
    exact congrArg failure? hanswer

/-- A sheet is refused when its name is taken. -/
theorem follows_addSheet (name : String) (columns : Nat) :
    (b.addSheet name columns).Follows b
      (if (b.sheet? name).isSome then .error (.duplicateSheet name) else .ok ()) := by
  unfold addSheet
  split <;> rfl

/-- A check of a row is refused where the sheet has no such row. -/
theorem follows_recomputeRow (name : String) (row : Nat) :
    (b.recomputeRow vars name row).Follows b (b.sheet name >>= fun s =>
      if s.rowCount ≤ row then .error (s.outside row 0) else .ok s) := by
  refine .goOn fun s _ => ?_
  split
  · rfl
  · exact refusal?_checkCells ..

/-- How a workbook refuses a request. -/
structure RefusesWhole (b : Workbook) (vars : Variables) (request : Request) : Prop where
  /-- A refused request leaves the workbook exactly as it was. -/
  unchanged : ∀ e, b.refusal? vars request = some e → b.serve vars request = b
  /-- A request that edits a sheet is refused when the edit is, and for the same reason: the check
  that comes after it never fails. -/
  edited : ∀ name change, request.edit? = some (name, change) →
    b.refusal? vars request = failure? (b.sheet name >>= change)

/-- A request whose reply follows its edit refuses as a whole. -/
theorem refusesWhole_of_follows {request : Request} {name : String}
    {change : Sheet → Except SheetError Sheet} {reply : Reply Report}
    (h : reply.Follows b (b.sheet name >>= change)) (hserve : b.serve vars request = reply.book)
    (hrefusal : b.refusal? vars request = reply.refusal?)
    (hedit : request.edit? = some (name, change)) : b.RefusesWhole vars request where
  unchanged e he := by
    rw [hserve]
    exact h.book_eq (hrefusal ▸ he)
  edited name' change' hedit' := by
    obtain ⟨rfl, rfl⟩ := Prod.mk.inj (Option.some.inj (hedit.symm.trans hedit'))
    rw [hrefusal, h.refusal?_eq]

/-- In a reachable workbook a refused request changes nothing at all, and no request is refused once
its edit has succeeded. -/
theorem Reachable.refusesWhole (h : b.Reachable) (vars : Variables) (request : Request) :
    b.RefusesWhole vars request := by
  cases request with
  | addSheet name columns => exact ⟨fun _ => (follows_addSheet name columns).book_eq, nofun⟩
  | setPropagationDepth depth => exact ⟨nofun, nofun⟩
  | attach =>
    exact refusesWhole_of_follows (follows_reshape fun _ _ => Sheet.remade_of_attach) rfl rfl rfl
  | loadRows =>
    exact refusesWhole_of_follows (follows_reshape fun _ _ => Sheet.remade_of_loadRows) rfl rfl rfl
  | insertRows =>
    exact refusesWhole_of_follows (follows_reshape fun _ _ => Sheet.remade_of_insertRows)
      rfl rfl rfl
  | removeRows =>
    exact refusesWhole_of_follows (follows_reshape fun _ _ => Sheet.remade_of_removeRows)
      rfl rfl rfl
  | insertColumn =>
    exact refusesWhole_of_follows (follows_reshape fun _ _ => Sheet.remade_of_insertColumn)
      rfl rfl rfl
  | removeColumn =>
    exact refusesWhole_of_follows (follows_reshape fun _ _ => Sheet.remade_of_removeColumn)
      rfl rfl rfl
  | setValueAt name row column text =>
    exact refusesWhole_of_follows (follows_setValueAt h.wellFormed name row column text)
      rfl rfl rfl
  | tryValueAt name row column text =>
    exact ⟨fun _ => (follows_tryValueAt name row column text).book_eq, nofun⟩
  | recomputeAll name =>
    have hfollows : (b.recomputeAll vars name).Follows b (b.sheet name) :=
      .goOn_answered fun _ _ => refusal?_checkCells ..
    exact ⟨fun _ => hfollows.book_eq, nofun⟩
  | recomputeRow name row => exact ⟨fun _ => (follows_recomputeRow name row).book_eq, nofun⟩

/-- Rows of which the second is too long are refused, and the first is not inserted either. -/
theorem refusesWhole_pairBook_insertRows :
    let request : Request := .insertRows "S" 1 [["c"], ["d", "e"], ["f"]]
    pairBook.RefusesWhole .empty request ∧
      pairBook.refusal? .empty request = some (.rowShape "S" 2 1 2) ∧
      pairBook.serve .empty request = pairBook := by
  intro request
  have hrefuses := pairBook_reachable.refusesWhole .empty request
  exact ⟨hrefuses, rfl, hrefuses.unchanged _ rfl⟩

end Workbook

end GridAudit
