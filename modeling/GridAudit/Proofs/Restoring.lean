import GridAudit.Proofs.Replacing

/-!
# Trials of the stored texts undo trials

A trial records verdicts for the cells that a change of its cell reaches, and for no others. Trying
the text that a cell has lays over the texts what they are, so it records for the same cells the
verdicts of a plain check. Hence after a check of all cells of a sheet and any trials there, a trial
of its stored text for every cell tried brings back the verdicts of the check, in any order: each
verdict that differs is of a cell that one of these reaches, and none of them records another.
-/

namespace GridAudit.Workbook

variable {b b' : Workbook} {vars : Variables} {s t : Sheet} {l : Ledger}

/-- The overlay of the text that a cell has changes no text. -/
theorem overlaid_stored (hs : b.sheet? s.name = some s) {row column : Nat} {text : String}
    (htext : s.text? row column = some text) :
    b.overlaid (some ⟨⟨s.name, row, column⟩, text⟩) = b.overlaid none := by
  funext a
  by_cases ha : ⟨s.name, row, column⟩ = a
  · subst ha
    simp [overlaid, cellText, hs, Nat.not_le.mpr (Sheet.row_lt_of_text? htext), htext]
  · simp only [overlaid, if_neg ha]

/-- A trial of the text that a cell has checks every cell as it is. -/
theorem probeCell_stored (hs : b.sheet? s.name = some s) {row column : Nat} {text : String}
    (htext : s.text? row column = some text) (id : CellId) :
    b.probeCell vars (some ⟨⟨s.name, row, column⟩, text⟩) s id = b.probeCell vars none s id := by
  rw [probeCell, overlaid_stored hs htext, probeCell]

/-- Trials check a cell of a sheet as if it held the text that some of them lays over. -/
theorem Replaces.trialAll (h : b.Replaces (t.recording l) b') (hs : b.sheet? t.name = some s)
    (vars : Variables) {entries : List Entry}
    (hwithin : ∀ e ∈ entries, e.row < t.rowCount ∧ e.column < t.columns) :
    ∃ l', b.Replaces (t.recording l') (b'.serveAll vars (entries.map (Entry.trial t.name))) ∧
      ∀ id, (l'.get? id = l.get? id ∧ ∀ e ∈ entries, id ∉ b.reach t e.row e.column) ∨
        ∃ e ∈ entries, id ∈ b.reach t e.row e.column ∧
          l'.get? id = some ((b.putSheet t).probeCell vars
            (some ⟨⟨t.name, e.row, e.column⟩, e.text⟩) t id) := by
  induction entries generalizing b' l with
  | nil => exact ⟨l, h, fun id => .inl ⟨rfl, nofun⟩⟩
  | cons e rest ih =>
    obtain ⟨hrow, hcolumn⟩ := hwithin e List.mem_cons_self
    obtain ⟨l', h', hledger'⟩ := h.trial hs vars e hrow hcolumn
    obtain ⟨l'', h'', hledger''⟩ := ih h' fun e he => hwithin e (List.mem_cons_of_mem _ he)
    refine ⟨l'', h'', fun id => ?_⟩
    rcases hledger'' id with ⟨hkept, hrest⟩ | ⟨e', he', hverdict⟩
    · rw [hledger'] at hkept
      by_cases hfirst : id ∈ b.reach t e.row e.column
      · rw [if_pos hfirst] at hkept
        exact .inr ⟨e, List.mem_cons_self, hfirst, hkept⟩
      · rw [if_neg hfirst] at hkept
        exact .inl ⟨hkept, List.forall_mem_cons.mpr ⟨hfirst, hrest⟩⟩
    · exact .inr ⟨e', List.mem_cons_of_mem _ he', hverdict⟩

/-- Trials of stored texts check the cells they reach as they are. -/
theorem Replaces.restoreAll (h : b.Replaces (s.recording l) b') (hs : b.sheet? s.name = some s)
    (hwell : s.WellFormed) (vars : Variables) {entries : List Entry}
    (hstored : ∀ e ∈ entries, s.text? e.row e.column = some e.text) :
    ∃ l', b.Replaces (s.recording l') (b'.serveAll vars (entries.map (Entry.trial s.name))) ∧
      ∀ id, l'.get? id =
        if ∃ e ∈ entries, id ∈ b.reach s e.row e.column then
          some ((b.putSheet s).probeCell vars none s id)
        else l.get? id := by
  obtain ⟨l', h', hledger⟩ := h.trialAll hs vars fun e he =>
    hwell.exists_text?_iff.mp ⟨e.text, hstored e he⟩
  refine ⟨l', h', fun id => ?_⟩
  rcases hledger id with ⟨hkept, hunreached⟩ | ⟨e, he, hreached, hverdict⟩
  · rw [if_neg, hkept]
    rintro ⟨e, he, hreached⟩
    exact hunreached e he hreached
  · rw [if_pos ⟨e, he, hreached⟩, hverdict,
      probeCell_stored (sheet?_putSheet_self hs rfl) (hstored e he)]

/-- The texts that are read are those of the sheet, whatever its ledger. -/
theorem Replaces.text?_eq_some (h : b.Replaces (s.recording l) b') (hs : b.sheet? s.name = some s)
    {row column : Nat} {text : String} (hvalue : b'.valueAt s.name row column = .ok text) :
    s.text? row column = some text := by
  rw [valueAt_of_putSheet h.sheets hs rfl, if_pos rfl] at hvalue
  exact Sheet.valueAt_eq_ok.mp hvalue

/-- A check of a whole sheet records what every cell comes to. -/
theorem WellFormed.replaces_recomputeAll (hb : b.WellFormed) (hs : b.sheet? s.name = some s)
    (vars : Variables) :
    ∃ l, b.Replaces (s.recording l) (b.recomputeAll vars s.name).book ∧
      ∀ id ∈ s.cellIds, l.get? id = some ((b.putSheet s).probeCell vars none s id) := by
  have hself : b.Replaces (s.recording s.ledger) b := hb.replaces_self hs
  obtain ⟨l, hreplaces, hledger⟩ := hself.checkCells vars none s.cellIds 0
  have hbook : (b.checkCells vars none (s.recording s.ledger) s.cellIds 0).book =
      (b.recomputeAll vars s.name).book := by
    simp only [recomputeAll, sheet, hs, goOn]
    rfl
  exact ⟨l, hbook ▸ hreplaces, fun id hid => (hledger id).trans (if_pos hid)⟩

/-- No cell of a missing sheet has a text, also after a check of it was refused. -/
theorem valueAt_recomputeAll_of_missing {name : String} (hs : b.sheet? name = none)
    (vars : Variables) (row column : Nat) :
    (b.recomputeAll vars name).book.valueAt name row column = .error (.unknownSheet name) := by
  simp only [recomputeAll, valueAt, sheet, hs, goOn]
  rfl

/-- Trials leave no lasting trace: once every cell that was tried is tried with its stored text, in
any order, all cells of all sheets have the verdicts that a check of the whole sheet had left. -/
theorem Reachable.agrees_of_restored (h : b.Reachable) (vars vars' : Variables) (name : String)
    {probes restores : List Entry}
    (hstored : ∀ q ∈ restores,
      (b.recomputeAll vars name).book.valueAt name q.row q.column = .ok q.text)
    (hcovered : ∀ p ∈ probes, ∃ q ∈ restores, q.place = p.place) :
    let settled := (b.recomputeAll vars name).book
    let probed := settled.serveAll vars' (probes.map (Entry.trial name))
    (probed.serveAll vars (restores.map (Entry.trial name))).Agrees settled := by
  intro settled probed
  have hplace : ∀ p ∈ probes, ∃ q ∈ restores, p.row = q.row ∧ p.column = q.column := by
    intro p hp
    obtain ⟨q, hq, hplace⟩ := hcovered p hp
    exact ⟨q, hq, (congrArg Prod.fst hplace).symm, (congrArg Prod.snd hplace).symm⟩
  cases hs : b.sheet? name with
  | none =>
    obtain rfl : restores = [] := List.eq_nil_iff_forall_not_mem.mpr fun q hq => by
      have hvalue := hstored q hq
      rw [valueAt_recomputeAll_of_missing hs] at hvalue
      contradiction
    obtain rfl : probes = [] := List.eq_nil_iff_forall_not_mem.mpr fun p hp => by
      simpa using hplace p hp
    exact ⟨fun _ _ _ => rfl, fun _ _ _ => rfl⟩
  | some s =>
    obtain rfl := name_of_sheet? hs
    have hwell := h.wellFormed.sheets s (mem_of_sheet? hs)
    obtain ⟨l, hsettled, hledger⟩ := h.wellFormed.replaces_recomputeAll hs vars
    have htext : ∀ q ∈ restores, s.text? q.row q.column = some q.text := fun q hq =>
      hsettled.text?_eq_some hs (hstored q hq)
    have hprobes : ∀ p ∈ probes, p.row < s.rowCount ∧ p.column < s.columns := by
      intro p hp
      obtain ⟨q, hq, hrow, hcolumn⟩ := hplace p hp
      rw [hrow, hcolumn]
      exact hwell.exists_text?_iff.mp ⟨q.text, htext q hq⟩
    obtain ⟨l', hprobed, hledger'⟩ := hsettled.trialAll hs vars' hprobes
    obtain ⟨l'', hrestored, hledger''⟩ := hprobed.restoreAll hs hwell vars htext
    refine hrestored.agrees hsettled hs fun id hid => ?_
    rw [hledger'', hledger id hid]
    split
    · rfl
    · next hunreached =>
      rcases hledger' id with ⟨hkept, -⟩ | ⟨p, hp, hreached, -⟩
      · rw [hkept, hledger id hid]
      · -- What a probe reaches, the trial that restores its cell reaches.
        obtain ⟨q, hq, hrow, hcolumn⟩ := hplace p hp
        rw [hrow, hcolumn] at hreached
        exact absurd ⟨q, hq, hreached⟩ hunreached

/-- Trials of other texts in the cells of `pairBook`. -/
def pairProbes : List Entry := [⟨0, 0, "b"⟩, ⟨1, 0, "c"⟩]

/-- Trials of the stored texts in the cells of `pairBook`. -/
def pairRestores : List Entry := [⟨1, 0, "a"⟩, ⟨0, 0, "a"⟩]

/-- A trial of each cell of `pairBook` leaves other verdicts, and trials of the stored texts bring
back those of the last check. -/
theorem agrees_pairBook_of_restored :
    let settled := (pairBook.recomputeAll .empty "S").book
    let probed := settled.serveAll .empty (pairProbes.map (Entry.trial "S"))
    probed.verdictAt "S" 1 0 ≠ settled.verdictAt "S" 1 0 ∧
      (probed.serveAll .empty (pairRestores.map (Entry.trial "S"))).Agrees settled := by
  exact ⟨by decide +kernel,
    pairBook_reachable.agrees_of_restored .empty .empty "S" (by decide +kernel) (by decide)⟩

end GridAudit.Workbook
