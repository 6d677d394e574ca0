import GridAudit.Proofs.Replacing
import Mathlib.Data.List.Induction

/-!
# The order of edits does not matter

Texts written to different cells of a sheet may be written in any order. The texts commute because
the cells differ. For the verdicts, take the cells that some of the edits reach: each was last
checked by one of them, and no later edit reaches the cell, so its rules read no text written since
and the verdict is that of a check against the final texts. The other cells keep the verdicts they
had, which may be anything.
-/

namespace GridAudit

namespace Sheet

variable {s : Sheet}

/-- Texts written to different cells commute. -/
theorem write_comm (s : Sheet) {row column row' column' : Nat}
    (h : (row, column) ≠ (row', column')) (text text' : String) :
    (s.write row column text).write row' column' text' =
      (s.write row' column' text').write row column text := by
  have hrows : ((s.rows.modify row fun cells => cells.set column text).modify row'
      fun cells => cells.set column' text') =
        (s.rows.modify row' fun cells => cells.set column' text').modify row
          fun cells => cells.set column text := by
    refine List.ext_getElem? fun i => ?_
    simp only [List.getElem?_modify]
    by_cases hrow : row = i <;> by_cases hrow' : row' = i
    · subst hrow hrow'
      have hcolumn : column ≠ column' := fun hcolumn => h (congrArg (Prod.mk row') hcolumn)
      simp only [↓reduceIte, Option.map_eq_map, Option.map_map]
      congr 1
      funext cells
      exact List.set_comm text text' hcolumn
    all_goals simp [hrow, hrow']
  simp only [write, hrows]

/-- The sheet with the texts of entries written in turn. -/
def writeAll (s : Sheet) (entries : List Entry) : Sheet :=
  entries.foldl (fun s e => s.write e.row e.column e.text) s

/-- A last entry is written after the others. -/
theorem writeAll_concat (s : Sheet) (entries : List Entry) (e : Entry) :
    s.writeAll (entries ++ [e]) = (s.writeAll entries).write e.row e.column e.text :=
  List.foldl_concat ..

/-- Writing entries changes the rows alone. -/
theorem writeAll_eq (s : Sheet) (entries : List Entry) :
    s.writeAll entries = { s with rows := (s.writeAll entries).rows } := by
  induction entries generalizing s with
  | nil => rfl
  | cons e rest ih => exact ih (s.write e.row e.column e.text)

/-- Writing entries renames no sheet. -/
@[simp] theorem name_writeAll (s : Sheet) (entries : List Entry) :
    (s.writeAll entries).name = s.name := by rw [writeAll_eq]

/-- Writing entries adds no columns. -/
@[simp] theorem columns_writeAll (s : Sheet) (entries : List Entry) :
    (s.writeAll entries).columns = s.columns := by rw [writeAll_eq]

/-- Writing entries adds no rows. -/
@[simp] theorem rowCount_writeAll (s : Sheet) (entries : List Entry) :
    (s.writeAll entries).rowCount = s.rowCount := by
  induction entries generalizing s with
  | nil => rfl
  | cons e rest ih => exact (ih (s.write e.row e.column e.text)).trans (s.rowCount_write ..)

/-- Writing entries keeps a sheet well formed. -/
theorem WellFormed.writeAll (h : s.WellFormed) (entries : List Entry) :
    (s.writeAll entries).WellFormed := by
  induction entries generalizing s with
  | nil => exact h
  | cons e rest ih => exact ih (h.write e.row e.column e.text)

/-- Writing entries keeps the rules of a sheet. -/
theorem Steady.writeAll (h : s.Steady) (entries : List Entry) : (s.writeAll entries).Steady := by
  rw [writeAll_eq]
  exact h

variable {entries entries' : List Entry}

/-- Entries for different cells may be written in any order. -/
theorem writeAll_perm (s : Sheet) (hperm : entries.Perm entries')
    (hplaces : (entries.map Entry.place).Nodup) : s.writeAll entries = s.writeAll entries' := by
  refine hperm.foldl_eq' (fun e he e' he' t => ?_) s
  by_cases hsame : e.place = e'.place
  · rw [List.inj_on_of_nodup_map hplaces he he' hsame]
  · exact (t.write_comm hsame e.text e'.text)

/-- Cells that no entry is for keep their texts. -/
theorem text?_writeAll_of_notMem {row column : Nat} (h : (row, column) ∉ entries.map Entry.place) :
    (s.writeAll entries).text? row column = s.text? row column := by
  induction entries generalizing s with
  | nil => rfl
  | cons e rest ih =>
    rw [List.map_cons, List.mem_cons, not_or] at h
    have hother : ¬(e.row = row ∧ e.column = column) := fun hsame =>
      h.1 (Prod.ext hsame.1.symm hsame.2.symm)
    refine (ih h.2).trans ?_
    rw [text?_write, if_neg hother]

/-- Among entries for different cells each has its text written. -/
theorem text?_writeAll_of_mem (hplaces : (entries.map Entry.place).Nodup) {e : Entry}
    (he : e ∈ entries) {old : String} (hold : s.text? e.row e.column = some old) :
    (s.writeAll entries).text? e.row e.column = some e.text := by
  induction entries generalizing s with
  | nil => contradiction
  | cons first rest ih =>
    obtain ⟨hfirst, hrest⟩ := List.nodup_cons.mp hplaces
    rcases List.mem_cons.mp he with rfl | he
    · refine (text?_writeAll_of_notMem hfirst).trans ?_
      rw [text?_write, if_pos ⟨rfl, rfl⟩, hold, Option.map_some]
    · have hother : ¬(first.row = e.row ∧ first.column = e.column) := fun hsame =>
        hfirst (List.mem_map.mpr ⟨e, he, Prod.ext hsame.1.symm hsame.2.symm⟩)
      refine ih hrest he ?_
      rw [text?_write, if_neg hother, hold]

end Sheet

namespace Workbook

variable {b b' : Workbook} {vars vars' : Variables} {s : Sheet} {entries entries' : List Entry}

/-- Writing entries changes no dependency: a change reaches the cells it reached before. -/
theorem reach_writeAll (b : Workbook) (s : Sheet) (entries : List Entry) (row column : Nat) :
    b.reach (s.writeAll entries) row column = b.reach s row column := by
  rw [s.writeAll_eq]
  rfl

/-- What a check of a cell of a sheet comes to once entries are written to it. -/
def probeWritten (b : Workbook) (vars : Variables) (s : Sheet) (entries : List Entry)
    (id : CellId) : Verdict :=
  (b.putSheet (s.writeAll entries)).probeCell vars none (s.writeAll entries) id

/-- Steady rules check a written cell alike, whatever values variables have. -/
theorem probeWritten_vars (hsteady : s.Steady) (id : CellId) :
    b.probeWritten vars s entries id = b.probeWritten vars' s entries id :=
  probeCell_eq (hsteady.writeAll entries) (fun _ _ _ _ => rfl) vars vars'

/-- A further entry leaves the checks of the cells that it does not reach. -/
theorem probeWritten_concat_of_notMem_reach (hs : b.sheet? s.name = some s) (hwell : s.WellFormed)
    (hsteady : s.Steady) (hdepth : 1 ≤ b.config.propagationDepth) {e : Entry}
    (hrow : e.row < s.rowCount) (hcolumn : e.column < s.columns) {id : CellId}
    (hid : id ∈ s.cellIds) (hreach : id ∉ b.reach s e.row e.column) :
    b.probeWritten vars s (entries ++ [e]) id = b.probeWritten vars s entries id := by
  let t := s.writeAll entries
  have ht : (b.putSheet t).sheet? t.name = some t := by
    rw [s.name_writeAll entries]
    exact sheet?_putSheet_self hs (s.name_writeAll entries)
  have hput : (b.putSheet t).putSheet (t.write e.row e.column e.text) =
      b.putSheet (t.write e.row e.column e.text) := putSheet_putSheet b rfl
  rw [← b.reach_writeAll s entries] at hreach
  rw [probeWritten, Sheet.writeAll_concat, ← hput]
  refine probeCell_write_of_notMem_reach ht (hwell.writeAll entries) (hsteady.writeAll entries)
    hdepth ?_ ?_ ?_ hreach e.text vars vars
  · rwa [s.rowCount_writeAll entries]
  · rwa [s.columns_writeAll entries]
  · rw [s.rowCount_writeAll entries, s.columns_writeAll entries]
    exact Sheet.mem_cellIds.mp hid

/-- After a run of edits the texts are those written, the cells that some edit reaches have the
verdicts of a check against these texts, and the others the verdicts they had. -/
theorem replaces_commitAll (hb : b.WellFormed) (hs : b.sheet? s.name = some s) (hsteady : s.Steady)
    (hdepth : 1 ≤ b.config.propagationDepth) (vars : Variables) (entries : List Entry)
    (hwithin : ∀ e ∈ entries, e.row < s.rowCount ∧ e.column < s.columns) :
    ∃ l, b.Replaces ((s.writeAll entries).recording l)
        (b.serveAll vars (entries.map (Entry.commit s.name))) ∧
      ∀ id ∈ s.cellIds, l.get? id =
        if ∃ e ∈ entries, id ∈ b.reach s e.row e.column then
          some (b.probeWritten vars s entries id)
        else s.ledger.get? id := by
  have hwell := hb.sheets s (mem_of_sheet? hs)
  induction entries using List.reverseRecOn with
  | nil => exact ⟨s.ledger, hb.replaces_self hs, fun id _ => by simp⟩
  | append_singleton entries e ih =>
    obtain ⟨l, hreplaces, hledger⟩ := ih fun e he => hwithin e (List.mem_append_left _ he)
    obtain ⟨hrow, hcolumn⟩ := hwithin e (List.mem_append_right _ (List.mem_singleton_self e))
    have hname := s.name_writeAll entries
    obtain ⟨l', hreplaces', hledger'⟩ := hreplaces.commit hb (hwell.writeAll entries)
      (s := s) (by rw [hname, hs]) vars e (by simpa using hrow) (by simpa using hcolumn)
    rw [hname, ← Sheet.writeAll_concat] at hreplaces'
    rw [← Sheet.writeAll_concat, reach_writeAll] at hledger'
    refine ⟨l', ?_, fun id hid => ?_⟩
    · rwa [List.map_append, List.map_singleton, serveAll_concat]
    · rw [hledger', hledger id hid]
      -- Cells that the last edit does not reach read nothing it wrote, so the check that an earlier
      -- edit made of them still stands.
      by_cases hlast : id ∈ b.reach s e.row e.column
      · rw [if_pos hlast, if_pos ⟨e, List.mem_append_right _ (List.mem_singleton_self e), hlast⟩]
        rfl
      · have hearlier : (∃ e' ∈ entries ++ [e], id ∈ b.reach s e'.row e'.column) ↔
            ∃ e' ∈ entries, id ∈ b.reach s e'.row e'.column := by
          simp [hlast, or_and_right, exists_or]
        rw [if_neg hlast, probeWritten_concat_of_notMem_reach hs hwell hsteady hdepth hrow hcolumn
          hid hlast]
        simp only [hearlier]

/-- Edits of different cells commute: applied in any order to a reachable workbook, whatever
verdicts it holds, they leave the same texts and the same verdicts in all cells of all sheets, among
them each text edited in and the verdict of its cell against all of these. The rules on the edited
sheet are built over the built-in bodies, hold no variables and may read other sheets. -/
theorem Reachable.agrees_commitAll (h : b.Reachable) (hs : b.sheet? s.name = some s)
    (hsteady : s.Steady) (hdepth : 1 ≤ b.config.propagationDepth)
    (hperm : entries.Perm entries') (hplaces : (entries.map Entry.place).Nodup)
    (hwithin : ∀ e ∈ entries, e.row < s.rowCount ∧ e.column < s.columns)
    (vars vars' : Variables) :
    let book := b.serveAll vars (entries.map (Entry.commit s.name))
    let book' := b.serveAll vars' (entries'.map (Entry.commit s.name))
    book.Agrees book' ∧ ∀ e ∈ entries, book.valueAt s.name e.row e.column = .ok e.text ∧
      book.verdictAt s.name e.row e.column =
        .ok (some (b.probeWritten vars s entries (s.numberOf e.row e.column))) := by
  intro book book'
  have hb := h.wellFormed
  obtain ⟨l, hreplaces, hledger⟩ := replaces_commitAll hb hs hsteady hdepth vars entries hwithin
  obtain ⟨l', hreplaces', hledger'⟩ := replaces_commitAll hb hs hsteady hdepth vars' entries'
    fun e he => hwithin e (hperm.mem_iff.mpr he)
  constructor
  · rw [← s.writeAll_perm hperm hplaces] at hreplaces'
    refine hreplaces.agrees hreplaces' (s := s) (by rw [s.name_writeAll, hs]) fun id hid => ?_
    have hid : id ∈ s.cellIds := by
      rwa [Sheet.cellIds, s.rowCount_writeAll, s.columns_writeAll] at hid
    have hprobe : b.probeWritten vars s entries id = b.probeWritten vars' s entries' id := by
      rw [probeWritten_vars hsteady, probeWritten, s.writeAll_perm hperm hplaces, probeWritten]
    rw [hledger id hid, hledger' id hid, hprobe]
    simp only [hperm.mem_iff]
  · intro e he
    obtain ⟨hrow, hcolumn⟩ := hwithin e he
    have hname := s.name_writeAll entries
    constructor
    · have hwell := hb.sheets s (mem_of_sheet? hs)
      obtain ⟨old, hold⟩ := hwell.exists_text?_iff.mpr ⟨hrow, hcolumn⟩
      rw [valueAt_of_putSheet hreplaces.sheets hs hname, if_pos rfl]
      exact Sheet.valueAt_eq_ok.mpr (Sheet.text?_writeAll_of_mem hplaces he hold)
    · have hnumber : (s.writeAll entries).numberOf e.row e.column = s.numberOf e.row e.column := by
        rw [Sheet.numberOf, s.columns_writeAll entries, Sheet.numberOf]
      rw [verdictAt_of_putSheet hreplaces.sheets hs hname, if_pos rfl,
        Sheet.verdictAt_recording (by simpa using hrow) (by simpa using hcolumn), hnumber,
        hledger _ (Sheet.numberOf_mem_cellIds hrow hcolumn), if_pos ⟨e, he, b.mem_reach ..⟩]

/-- Writing both cells of `pairBook`, each of which is checked against the first, leaves the same
verdicts in either order. -/
theorem agrees_pairBook_commitAll :
    (pairBook.serveAll .empty [.setValueAt "S" 0 0 "b", .setValueAt "S" 1 0 "b"]).Agrees
        (pairBook.serveAll .empty [.setValueAt "S" 1 0 "b", .setValueAt "S" 0 0 "b"]) ∧
      (pairBook.serveAll .empty [.setValueAt "S" 1 0 "b"]).verdictAt "S" 1 0 =
        .ok (some .invalid) ∧
      (pairBook.serveAll .empty [.setValueAt "S" 1 0 "b", .setValueAt "S" 0 0 "b"]).verdictAt
        "S" 1 0 = .ok (some .valid) := by
  have hfits : pairBook.Fits :=
    fits_of_sheets_eq rfl (by decide) rfl (List.forall_mem_singleton.mpr sameAsFirst_fits)
  let s := (pairBook.sheet? "S").get rfl
  have hs : pairBook.sheet? s.name = some s := rfl
  have hswap : [Entry.mk 0 0 "b", ⟨1, 0, "b"⟩].Perm [⟨1, 0, "b"⟩, ⟨0, 0, "b"⟩] := .swap ..
  have hcommute := pairBook_reachable.agrees_commitAll hs
    (hfits s (mem_of_sheet? hs)).steady (by decide) hswap (by decide) (by decide) .empty .empty
  exact ⟨hcommute.1, by decide +kernel, by decide +kernel⟩

end Workbook

end GridAudit
