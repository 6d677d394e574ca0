import GridAudit.Proofs.Graph
import GridAudit.Proofs.References
import GridAudit.Proofs.Trial

/-!
# Checks that change with cells alone

Rules that were built over the built-in bodies and hold no variables are steady: a check of a cell
comes to the same as long as the places its rules list have the same texts. The sheet lists a place
of its own as a dependency of every cell that reads it, so a written text leaves the checks of all
cells that the change does not reach, wherever the rules read besides. Nothing is asked of the size
of a sheet: when it has too many cells for their numbers, the cells of one number are checked as one
of them, and what any of them reads is a dependency of all.
-/

namespace GridAudit

/-! ## Steady rules -/

/-- A built argument that holds no variables. -/
structure Param.Steady (p : Param) : Prop where
  built : p.Built
  closed : p.captured = []

/-- Rules all of which are steady. -/
structure CellRules.Steady (rules : CellRules) : Prop where
  goodData : ∀ m ∈ rules.goodData, (Param.matcher m).Steady
  matchers : ∀ c ∈ rules.corrections, (Param.matcher c.matcher).Steady
  replacers : ∀ c ∈ rules.corrections, (Param.replacer c.replacer).Steady

/-- A sheet with steady rules. -/
def Sheet.Steady (s : Sheet) : Prop := ∀ a ∈ s.attachments, a.rules.Steady

/-- The rules on every cell of a sheet with steady rules are steady. -/
theorem Sheet.Steady.rulesFor {s : Sheet} (h : s.Steady) {cell : CellAddress} :
    ∀ c ∈ s.rulesFor cell, c.Steady := by
  intro c hc
  obtain ⟨a, ha, rfl⟩ := List.mem_map.mp hc
  exact h a (List.mem_filter.mp ha).1

section Checking

variable {ctx ctx' : Context}

/-- A steady rule answers alike where its addresses read alike, whatever values variables have. -/
theorem Param.Steady.outcome_eq {i : Instance} (h : i.toParam.Steady)
    (hreads : ∀ r ∈ i.references, ctx.read r = ctx'.read r) : i.outcome ctx = i.outcome ctx' := by
  refine Instance.outcome_congr h.built.accountable hreads fun v hv => ?_
  rw [← i.captured_toParam, h.closed] at hv
  contradiction

/-- A steady matcher accepts alike where its addresses read alike. -/
theorem Param.Steady.acceptsQuietly_eq {m : Matcher} (h : (Param.matcher m).Steady)
    (hreads : ∀ r ∈ m.references, ctx.read r = ctx'.read r) :
    m.acceptsQuietly ctx = m.acceptsQuietly ctx' := by
  have houtcome := Param.Steady.outcome_eq (i := .matcher m) h hreads
  rw [Matcher.acceptsQuietly, Sum.inl.inj houtcome, Matcher.acceptsQuietly]

/-- A correction with a steady replacer comes to the same where its addresses read alike. -/
theorem Correction.apply_eq {c : Correction} (h : (Param.replacer c.replacer).Steady)
    (hreads : ∀ r ∈ c.replacer.references, ctx.read r = ctx'.read r) :
    c.apply ctx = c.apply ctx' := by
  have houtcome := Param.Steady.outcome_eq (i := .replacer c.replacer) h hreads
  rw [Correction.apply, Sum.inr.inj houtcome, Correction.apply]

/-- Attached rules list the addresses of every matcher and replacer among them. -/
theorem CellRules.mem_references {rules : CellRules} {r : CellRange} :
    r ∈ rules.references ↔ (∃ m ∈ rules.goodData, r ∈ m.references) ∨
      ∃ c ∈ rules.corrections, r ∈ c.matcher.references ∨ r ∈ c.replacer.references := by
  simp only [references, CellRange.mem_distinct, List.mem_append, List.mem_flatMap]

variable {rules : List CellRules}

/-- Good data passes alike where the addresses of the rules read alike. -/
theorem goodDataPasses_eq (hsteady : ∀ c ∈ rules, c.Steady)
    (hreads : ∀ c ∈ rules, ∀ r ∈ c.references, ctx.read r = ctx'.read r) :
    goodDataPasses rules ctx = goodDataPasses rules ctx' := by
  rw [Bool.eq_iff_iff, goodDataPasses, goodDataPasses, List.all_eq_true, List.all_eq_true]
  refine forall₂_congr fun m hm => ?_
  obtain ⟨c, hc, hm⟩ := List.mem_flatMap.mp hm
  rw [((hsteady c hc).goodData m hm).acceptsQuietly_eq fun r hr =>
    hreads c hc r (CellRules.mem_references.mpr (.inl ⟨m, hm, hr⟩))]

/-- The same correction applies first where the addresses of the rules read alike. -/
theorem firstCorrection?_eq (hsteady : ∀ c ∈ rules, c.Steady)
    (hreads : ∀ c ∈ rules, ∀ r ∈ c.references, ctx.read r = ctx'.read r) :
    firstCorrection? rules ctx = firstCorrection? rules ctx' := by
  rw [firstCorrection?, firstCorrection?, ← List.head?_filter, ← List.head?_filter]
  refine congrArg List.head? (List.filter_congr fun k hk => ?_)
  obtain ⟨c, hc, hk⟩ := List.mem_flatMap.mp hk
  exact ((hsteady c hc).matchers k hk).acceptsQuietly_eq fun r hr =>
    hreads c hc r (CellRules.mem_references.mpr (.inr ⟨k, hk, .inl hr⟩))

/-- A cell is checked alike where the addresses of the rules on it read alike. -/
theorem probe_eq (hsteady : ∀ c ∈ rules, c.Steady)
    (hreads : ∀ c ∈ rules, ∀ r ∈ c.references, ctx.read r = ctx'.read r) :
    probe rules ctx = probe rules ctx' := by
  simp only [probe, goodDataPasses_eq hsteady hreads, firstCorrection?_eq hsteady hreads]
  split
  · rfl
  · cases hfirst : firstCorrection? rules ctx' with
    | none => rfl
    | some k =>
      obtain ⟨c, hc, hk⟩ := List.mem_flatMap.mp (List.mem_of_find?_eq_some hfirst)
      exact Correction.apply_eq ((hsteady c hc).replacers k hk) fun r hr =>
        hreads c hc r (CellRules.mem_references.mpr (.inr ⟨k, hk, .inr hr⟩))

end Checking

/-! ## Numbers and places -/

namespace Sheet

variable {s : Sheet} {row column : Nat}

/-- A number within a sheet is that of a cell, at whose address it is checked. -/
theorem WellFormed.exists_numberOf_eq (hs : s.WellFormed) {id : CellId}
    (hid : id.index < s.rowCount * s.columns) :
    ∃ row column, row < s.rowCount ∧ column < s.columns ∧ s.numberOf row column = id ∧
      s.addressOfId id = s.addressOf row column := by
  have hrows : s.rows ≠ [] := by
    intro hnil
    simp [rowCount, hnil] at hid
  refine ⟨_, _, (CellId.place_lt hid).1, (CellId.place_lt hid).2, CellId.ofPlace_place hid, ?_⟩
  rw [addressOfId, CellGraph.place, hs.built hrows]
  rfl

/-- A cell lists every place of its own sheet that its rules read. -/
theorem mem_targetsOf {c : CellRules} (hc : c ∈ s.rulesFor (s.addressOf row column))
    {r : CellRange} (hr : r ∈ c.references) {row' column' : Nat}
    (hread : r.resolve (s.addressOf row column) = s.addressOf row' column') :
    (row', column') ∈ s.targetsOf row column := by
  have hsheet : r.sheet?.all (· = s.name) := by
    cases r with
    | any => rfl
    | within sheet =>
      have hname : sheet = s.name := congrArg CellAddress.sheet hread
      simp [CellRange.sheet?, hname]
  refine List.mem_map.mpr ⟨r, List.mem_filter.mpr ⟨List.mem_flatMap.mpr ⟨c, hc, hr⟩, hsheet⟩, ?_⟩
  exact congrArg (fun a : CellAddress => (a.row, a.column)) hread

end Sheet

/-! ## Changes that do not reach a cell -/

namespace Workbook

variable {b b' : Workbook} {s : Sheet} {row column : Nat}

/-- A cell with steady rules is checked alike where the places they list have the same texts. -/
theorem probeCell_eq (hsteady : s.Steady) {id : CellId}
    (htexts : ∀ c ∈ s.rulesFor (s.addressOfId id), ∀ r ∈ c.references,
      b.cellText (r.resolve (s.addressOfId id)) = b'.cellText (r.resolve (s.addressOfId id)))
    (vars vars' : Variables) : b.probeCell vars none s id = b'.probeCell vars' none s id :=
  probe_eq hsteady.rulesFor fun c hc r hr => congrArg (Except.mapError _) (htexts c hc r hr)

/-- A cell that reads another cell of the sheet is reached by every change of that one. -/
theorem mem_reach_of_resolve_eq (hs : s.WellFormed) (hdepth : 1 ≤ b.config.propagationDepth)
    (hrow : row < s.rowCount) (hcolumn : column < s.columns) {id : CellId}
    (hid : id.index < s.rowCount * s.columns) {c : CellRules}
    (hc : c ∈ s.rulesFor (s.addressOfId id)) {r : CellRange} (hr : r ∈ c.references)
    (hread : r.resolve (s.addressOfId id) = s.addressOf row column) :
    id ∈ b.reach s row column := by
  obtain ⟨row', column', hrow', hcolumn', rfl, haddress⟩ := hs.exists_numberOf_eq hid
  rw [haddress] at hc hread
  by_cases hself : s.numberOf row column = s.numberOf row' column'
  · exact hself ▸ b.mem_reach s row column
  · have hrows : s.rows ≠ [] := List.ne_nil_of_length_pos (Nat.zero_lt_of_lt hrow)
    have hdependent := CellGraph.mem_dependents_build hrow hcolumn hrow' hcolumn'
      (Sheet.mem_targetsOf hc hr hread) hself
    rw [← hs.built hrows] at hdependent
    exact CellGraph.dependents_subset_schedule s.graph _ hdepth hdependent

/-- A written text leaves the checks of the cells that the change does not reach. -/
theorem probeCell_write_of_notMem_reach (hfound : b.sheet? s.name = some s) (hs : s.WellFormed)
    (hsteady : s.Steady) (hdepth : 1 ≤ b.config.propagationDepth) (hrow : row < s.rowCount)
    (hcolumn : column < s.columns) {id : CellId} (hid : id.index < s.rowCount * s.columns)
    (hreach : id ∉ b.reach s row column) (text : String) (vars vars' : Variables) :
    (b.putSheet (s.write row column text)).probeCell vars none (s.write row column text) id =
      b.probeCell vars' none s id := by
  obtain ⟨old, hold⟩ := hs.exists_text?_iff.mpr ⟨hrow, hcolumn⟩
  refine probeCell_eq (s := s) hsteady (fun c hc r hr => ?_) vars vars'
  have hother : (⟨s.name, row, column⟩ : CellAddress) ≠ r.resolve (s.addressOfId id) := fun hread =>
    hreach (mem_reach_of_resolve_eq hs hdepth hrow hcolumn hid hc hr hread.symm)
  simp only [cellText_write hfound hold, overlaid, if_neg hother]

end Workbook

end GridAudit
