import GridAudit.Proofs.Steady

/-!
# Recorded verdicts are never stale

A recorded verdict is fresh when a check of its cell against the current texts comes to the same.
Requests that write only while changes spread, and try nothing, keep all verdicts fresh, as long as
every sheet has fewer than `2^32` cells and its rules were built over the built-in bodies, hold no
variables and read the sheet itself or the cell checked. Each effect of a request is one case: the
cells it checks get fresh verdicts, and the others read nothing that it changed.
-/

namespace GridAudit

/-! ## Rules that read the sheet they are attached to -/

/-- A built argument without variables whose addresses name a sheet, or no sheet at all. -/
structure Param.Fits (sheet : String) (p : Param) : Prop where
  built : p.Built
  closed : p.captured = []
  confined : ∀ r ∈ p.references, r = .any ∨ r.sheet? = some sheet

/-- Rules all of which fit a sheet. -/
structure CellRules.Fits (sheet : String) (rules : CellRules) : Prop where
  goodData : ∀ m ∈ rules.goodData, (Param.matcher m).Fits sheet
  matchers : ∀ c ∈ rules.corrections, (Param.matcher c.matcher).Fits sheet
  replacers : ∀ c ∈ rules.corrections, (Param.replacer c.replacer).Fits sheet

/-- A sheet whose cells have different numbers and whose rules fit it. -/
structure Sheet.Fits (s : Sheet) : Prop where
  size : s.rowCount * s.columns < UInt32.size
  rules : ∀ a ∈ s.attachments, a.rules.Fits s.name

/-- A workbook all of whose sheets fit. -/
def Workbook.Fits (b : Workbook) : Prop := ∀ s ∈ b.sheets, s.Fits

/-- An argument that fits is steady. -/
theorem Param.Fits.steady {sheet : String} {p : Param} (h : p.Fits sheet) : p.Steady :=
  ⟨h.built, h.closed⟩

/-- Rules that fit are steady. -/
theorem CellRules.Fits.steady {sheet : String} {rules : CellRules} (h : rules.Fits sheet) :
    rules.Steady where
  goodData m hm := (h.goodData m hm).steady
  matchers c hc := (h.matchers c hc).steady
  replacers c hc := (h.replacers c hc).steady

/-- A sheet that fits has steady rules. -/
theorem Sheet.Fits.steady {s : Sheet} (h : s.Fits) : s.Steady := fun a ha => (h.rules a ha).steady

/-! ## Fresh checks -/

namespace Workbook

variable {b b' : Workbook}

/-- What a check of a cell against the current texts comes to. -/
def freshVerdict (b : Workbook) (vars : Variables) (s : Sheet) (row column : Nat) : Verdict :=
  probe (s.rulesFor (s.addressOf row column)) ⟨b.cellText, vars, s.addressOf row column⟩

/-- The verdict recorded for a cell of a sheet is that of a fresh check, whatever values variables
have. -/
def Fresh (b : Workbook) (s : Sheet) (row column : Nat) : Prop :=
  ∀ vars, s.verdictAt row column = .ok (some (b.freshVerdict vars s row column))

/-- Every cell of every sheet has a fresh verdict. -/
def Coherent (b : Workbook) : Prop :=
  ∀ s ∈ b.sheets, ∀ row column, row < s.rowCount → column < s.columns → b.Fresh s row column

/-- The contents of the sheet of a name are found among the contents of the workbook. -/
theorem map_contents_sheet? (b : Workbook) (name : String) :
    (b.sheet? name).map Sheet.contents = b.contents.1.find? (·.name = name) := by
  rw [contents, List.find?_map]
  rfl

/-- Texts are read from the contents of the sheet they are on. -/
theorem cellText_congr {a : CellAddress}
    (h : (b.sheet? a.sheet).map Sheet.contents = (b'.sheet? a.sheet).map Sheet.contents) :
    b.cellText a = b'.cellText a := by
  unfold cellText
  cases hs : b.sheet? a.sheet with
  | none =>
    rw [hs, Option.map_none, eq_comm, Option.map_eq_none_iff] at h
    rw [h]
  | some s =>
    rw [hs, Option.map_some, eq_comm] at h
    obtain ⟨s', hs', hcontents⟩ := Option.map_eq_some_iff.mp h
    have hrows : s'.contents.rows = s.contents.rows := congrArg Sheet.rows hcontents
    simp only [Sheet.contents] at hrows
    simp only [hs', Sheet.rowCount, Sheet.text?, hrows]
    rfl

/-- Workbooks of the same contents have the same texts. -/
theorem cellText_of_contents_eq (h : b.contents = b'.contents) : b.cellText = b'.cellText := by
  funext a
  apply cellText_congr
  rw [map_contents_sheet?, map_contents_sheet?, h]

/-- Whether a workbook fits is a matter of its contents. -/
theorem Fits.of_contents_eq (hfits : b.Fits) (h : b'.contents = b.contents) : b'.Fits := by
  intro t ht
  have hsheets : b'.sheets.map Sheet.contents = b.sheets.map Sheet.contents := congrArg Prod.fst h
  have hmem : t.contents ∈ b.sheets.map Sheet.contents := by
    rw [← hsheets]
    exact List.mem_map_of_mem ht
  obtain ⟨s, hs, hcontents⟩ := List.mem_map.mp hmem
  have hsheet : s.contents.Fits := ⟨(hfits s hs).size, (hfits s hs).rules⟩
  rw [hcontents] at hsheet
  exact ⟨hsheet.size, hsheet.rules⟩

/-- A cell whose rules read nothing that changed is checked as before. -/
theorem freshVerdict_eq {s : Sheet} (hfits : s.Fits) {row column : Nat}
    (htexts : ∀ c ∈ s.rulesFor (s.addressOf row column), ∀ r ∈ c.references,
      b.cellText (r.resolve (s.addressOf row column)) =
        b'.cellText (r.resolve (s.addressOf row column))) (vars vars' : Variables) :
    b.freshVerdict vars s row column = b'.freshVerdict vars' s row column :=
  probe_eq hfits.steady.rulesFor fun c hc r hr => congrArg (Except.mapError _) (htexts c hc r hr)

end Workbook

namespace Sheet

/-- The rules on the cells of a sheet that fits read that sheet. -/
theorem Fits.sheet_resolve {s : Sheet} (h : s.Fits) {a : CellAddress} (ha : a.sheet = s.name)
    {c : CellRules} (hc : c ∈ s.rulesFor a) {r : CellRange} (hr : r ∈ c.references) :
    r.sheet?.all (· = s.name) ∧ (r.resolve a).sheet = s.name := by
  have hconfined : r = .any ∨ r.sheet? = some s.name := by
    obtain ⟨t, ht, rfl⟩ := List.mem_map.mp hc
    have hrules := h.rules t (List.mem_filter.mp ht).1
    rcases CellRules.mem_references.mp hr with ⟨m, hm, hr⟩ | ⟨k, hk, hr | hr⟩
    · exact (hrules.goodData m hm).confined r hr
    · exact (hrules.matchers k hk).confined r hr
    · exact (hrules.replacers k hk).confined r hr
  rcases hconfined with rfl | hsheet
  · exact ⟨rfl, ha⟩
  · simp [CellRange.resolve, hsheet]

/-- Writing does not decide whether a sheet fits. -/
theorem fits_write {s : Sheet} {row column : Nat} {text : String} :
    (s.write row column text).Fits ↔ s.Fits := by
  have hsize : (s.write row column text).rowCount * (s.write row column text).columns =
      s.rowCount * s.columns := by simp
  exact ⟨fun h => ⟨hsize ▸ h.size, h.rules⟩, fun h => ⟨hsize ▸ h.size, h.rules⟩⟩

/-- In a well-formed sheet of fewer than `2^32` cells, the address of a numbered cell is that of its
place. -/
theorem addressOfId_numberOf {s : Sheet} (hs : s.WellFormed)
    (hsize : s.rowCount * s.columns < UInt32.size) {row column : Nat}
    (hrow : row < s.rowCount) (hcolumn : column < s.columns) :
    s.addressOfId (s.numberOf row column) = s.addressOf row column := by
  have hrows : s.rows ≠ [] := List.ne_nil_of_length_pos (Nat.zero_lt_of_lt hrow)
  have hplace := CellId.place_ofPlace hrow hcolumn hsize
  simp only [addressOfId, CellGraph.place, hs.built hrows, CellGraph.build, numberOf, hplace]

/-- The numbers of a sheet are those of its places. -/
theorem numberOf_mem_cellIds {s : Sheet} {row column : Nat} (hrow : row < s.rowCount)
    (hcolumn : column < s.columns) : s.numberOf row column ∈ s.cellIds :=
  List.mem_map_of_mem (List.mem_range.mpr (CellId.rowMajor_lt hrow hcolumn))

end Sheet

/-! ## Effects keep verdicts fresh -/

namespace Workbook

variable {b b' : Workbook} {vars : Variables} {s t : Sheet} {row column : Nat}

/-- A verdict stays fresh while the sheet of its cell keeps its contents. -/
theorem Fresh.of_sheet? (h : b.Fresh t row column) (hfits : t.Fits)
    (hsheet : (b.sheet? t.name).map Sheet.contents = (b'.sheet? t.name).map Sheet.contents) :
    b'.Fresh t row column := by
  intro vars
  rw [h vars, freshVerdict_eq hfits (fun c hc r hr => ?_) vars vars]
  have hresolve := (hfits.sheet_resolve rfl hc hr).2
  exact cellText_congr (by rw [hresolve, hsheet])

/-- A check of a numbered cell is one of its place. -/
theorem probeCell_numberOf (hs : s.WellFormed) (hfits : s.Fits) (hrow : row < s.rowCount)
    (hcolumn : column < s.columns) (vars : Variables) :
    b.probeCell vars none s (s.numberOf row column) = b.freshVerdict vars s row column := by
  simp only [probeCell, Sheet.addressOfId_numberOf hs hfits.size hrow hcolumn]
  rfl

/-- The verdict of a cell that is checked is fresh. -/
theorem fresh_store (hs : s.WellFormed) (hfits : s.Fits) (hrow : row < s.rowCount)
    (hcolumn : column < s.columns) {ids : List CellId} (hid : s.numberOf row column ∈ ids)
    (vars : Variables) :
    b.Fresh (s.store (ids.map fun id => (id, b.probeCell vars none s id))) row column := by
  intro vars'
  rw [verdictAt_store hrow hcolumn hid, probeCell_numberOf hs hfits hrow hcolumn,
    freshVerdict_eq hfits (fun _ _ _ _ => rfl) vars vars']
  rfl

/-- The verdict of a cell that is not checked stays. -/
theorem verdictAt_store_of_notMem {ids : List CellId}
    (hid : row < s.rowCount → column < s.columns → s.numberOf row column ∉ ids)
    (f : CellId → Verdict) :
    (s.store (ids.map fun id => (id, f id))).verdictAt row column = s.verdictAt row column := by
  by_cases h : row < s.rowCount ∧ column < s.columns
  · have hverdict := Ledger.get?_foldl_insert f ids s.ledger (s.numberOf row column)
    rw [if_neg (hid h.1 h.2)] at hverdict
    have hcell : s.cellId row column = .ok (s.numberOf row column) :=
      Sheet.cellId_eq_ok.mpr ⟨h.1, h.2, rfl⟩
    have hcell' : (s.store (ids.map fun id => (id, f id))).cellId row column =
        .ok (s.numberOf row column) := hcell
    simp only [Sheet.verdictAt, hcell, hcell']
    exact congrArg Except.ok hverdict
  · simp only [Sheet.verdictAt, Sheet.cellId, Sheet.store, Sheet.rowCount] at h ⊢
    simp only [h, ↓reduceIte]
    rfl

/-- A check of cells changes no contents. -/
theorem WellFormed.contents_checkCells (hb : b.WellFormed) (hs : b.sheet? s.name = some s)
    (vars : Variables) (trial : Option Trial) (ids : List CellId) (propagated : Nat) :
    (b.checkCells vars trial s ids propagated).book.contents = b.contents := by
  have hstored : (s.store (ids.map fun id => (id, b.probeCell vars trial s id))).contents =
      s.contents := rfl
  exact hb.contents_putSheet hs hstored

/-- After a check of cells of a sheet all verdicts are fresh, when those of the others were. -/
theorem WellFormed.coherent_checkCells (hb : b.WellFormed) (hs : b.sheet? s.name = some s)
    (hfits : b.Fits) {ids : List CellId} (hkept : ∀ t ∈ b.sheets, ∀ row column,
      row < t.rowCount → column < t.columns → (t = s → t.numberOf row column ∉ ids) →
        b.Fresh t row column) (propagated : Nat) :
    (b.checkCells vars none s ids propagated).book.Coherent := by
  have hmem := mem_of_sheet? hs
  have htexts : (b.checkCells vars none s ids propagated).book.cellText = b.cellText :=
    cellText_of_contents_eq (hb.contents_checkCells hs vars none ids propagated)
  have hfresh (t : Sheet) (row column : Nat) (h : b.Fresh t row column) :
      (b.checkCells vars none s ids propagated).book.Fresh t row column := by
    intro vars'
    rw [freshVerdict, htexts]
    exact h vars'
  intro t ht row column hrow hcolumn
  rcases mem_putSheet ht with rfl | ⟨ht, hname⟩
  · by_cases hid : s.numberOf row column ∈ ids
    · exact hfresh _ _ _ (fresh_store (hb.sheets s hmem) (hfits s hmem) hrow hcolumn hid vars)
    · refine hfresh _ _ _ fun vars' => ?_
      rw [verdictAt_store_of_notMem fun _ _ => hid]
      exact hkept s hmem row column hrow hcolumn (fun _ => hid) vars'
  · refine hfresh _ _ _ (hkept t ht row column hrow hcolumn fun heq => ?_)
    exact absurd (congrArg Sheet.name heq) hname

/-- A written text leaves the verdicts of cells that the change does not reach fresh. -/
theorem Fresh.of_write (h : b.Fresh s row column) (hs : b.sheet? s.name = some s)
    (hwell : s.WellFormed) (hfits : s.Fits) (hrow : row < s.rowCount) (hcolumn : column < s.columns)
    {row' column' : Nat} (hrow' : row' < s.rowCount) (hcolumn' : column' < s.columns)
    (hdepth : 1 ≤ b.config.propagationDepth)
    (hid : s.numberOf row column ∉ b.reach s row' column') (text : String) :
    (b.putSheet (s.write row' column' text)).Fresh (s.write row' column' text) row column := by
  intro vars
  have hverdict : (s.write row' column' text).verdictAt row column = s.verdictAt row column :=
    verdictAt_write_store s row' column' text [] row column
  have hprobe : (b.putSheet (s.write row' column' text)).probeCell vars none
      (s.write row' column' text) (s.numberOf row column) =
        b.probeCell vars none s (s.numberOf row column) :=
    probeCell_write_of_notMem_reach hs hwell hfits.steady hdepth hrow' hcolumn'
      (CellId.index_ofPlace_lt hrow hcolumn) hid text vars vars
  rw [hverdict, h vars, ← probeCell_numberOf hwell hfits hrow hcolumn, ← hprobe]
  rw [← s.rowCount_write row' column' text] at hrow
  exact congrArg (fun v => Except.ok (some v)) (probeCell_numberOf
    (hwell.write row' column' text) (Sheet.fits_write.mpr hfits) hrow hcolumn vars)

end Workbook

/-! ## Careful requests -/

/-- A request that writes a text only while changes spread, and tries none. -/
def Request.Careful (b : Workbook) : Request → Prop
  | .setValueAt _ _ _ _ => 1 ≤ b.config.propagationDepth
  | .tryValueAt _ _ _ _ => False
  | _ => True

namespace Workbook

variable {b b' : Workbook} {vars : Variables}

/-- A workbook that careful requests lead to from an empty one, through workbooks that fit. -/
inductive CarefullyReachable : Workbook → Prop
  | new (config : Config) : CarefullyReachable (.new config)
  | serve {b : Workbook} (h : CarefullyReachable b) (vars : Variables) (request : Request)
      (hcareful : request.Careful b) (hfits : (b.serve vars request).Fits) :
      CarefullyReachable (b.serve vars request)

/-- Careful requests are requests. -/
theorem CarefullyReachable.reachable (h : b.CarefullyReachable) : b.Reachable := by
  induction h with
  | new config => exact .new config
  | serve _ vars request _ _ ih => exact ih.serve vars request

/-- A sheet of another name keeps its verdicts fresh when a sheet is put. -/
theorem Fresh.putSheet {t : Sheet} {row column : Nat} (h : b.Fresh t row column) (hfits : t.Fits)
    {s : Sheet} (hname : t.name ≠ s.name) : (b.putSheet s).Fresh t row column := by
  refine h.of_sheet? hfits ?_
  rw [sheet?_putSheet, if_neg hname]

/-- No careful request leaves a stale verdict. -/
theorem Coherent.of_effect (hcoherent : b.Coherent) (hb : b.WellFormed) {request : Request}
    (heffect : Effect b vars request b') (hcareful : request.Careful b) (hfits : b'.Fits) :
    b'.Coherent := by
  cases heffect with
  | refused => exact hcoherent
  | @added name columns hnone =>
    intro t ht row column hrow hcolumn
    rcases List.mem_append.mp ht with hold | hnew
    · refine (hcoherent t hold row column hrow hcolumn).of_sheet? (hfits t ht) ?_
      have hfound : (b.sheet? t.name).isSome := List.find?_isSome.mpr ⟨t, hold, by simp⟩
      obtain ⟨u, hu⟩ := Option.isSome_iff_exists.mp hfound
      have hu' : b.sheets.find? (·.name = t.name) = some u := hu
      rw [hu, sheet?, List.find?_append, hu', Option.some_or]
    · obtain rfl := List.mem_singleton.mp hnew
      contradiction
  | configured depth => exact hcoherent
  | checked ids propagated hs =>
    have hbefore := hfits.of_contents_eq (hb.contents_checkCells hs vars none ids propagated).symm
    exact hb.coherent_checkCells hs hbefore
      (fun t ht row column hrow hcolumn _ => hcoherent t ht row column hrow hcolumn) propagated
  | @remade _ s s' hs hremade =>
    have hs' := sheet?_putSheet_self hs hremade.name
    rw [← hremade.name] at hs'
    have hb' := hb.putSheet (hremade.wellFormed (hb.sheets s (mem_of_sheet? hs)))
    have hbefore := hfits.of_contents_eq (hb'.contents_checkCells hs' vars none s'.cellIds 0).symm
    refine hb'.coherent_checkCells hs' hbefore (fun t ht row column hrow hcolumn hids => ?_) 0
    rcases mem_putSheet ht with rfl | ⟨hold, hname⟩
    · exact absurd (Sheet.numberOf_mem_cellIds hrow hcolumn) (hids rfl)
    · exact (hcoherent t hold row column hrow hcolumn).putSheet (hbefore t ht) hname
  | @written s row column text hs hrow hcolumn =>
    have hmem := mem_of_sheet? hs
    have hwell := hb.sheets s hmem
    have hs' : (b.putSheet (s.write row column text)).sheet? (s.write row column text).name =
        some (s.write row column text) := sheet?_putSheet_self (s := s) hs rfl
    have hb' := hb.putSheet (hwell.write row column text)
    have hbefore := hfits.of_contents_eq (hb'.contents_checkCells hs' vars none
      (b.reach s row column) ((b.reach s row column).length - 1)).symm
    refine hb'.coherent_checkCells hs' hbefore (fun t ht row' column' hrow' hcolumn' hids => ?_) _
    rcases mem_putSheet ht with rfl | ⟨hold, hname⟩
    · rw [Sheet.rowCount_write] at hrow'
      exact (hcoherent s hmem row' column' hrow' hcolumn').of_write hs hwell
        (Sheet.fits_write.mp (hbefore _ ht)) hrow' hcolumn' hrow hcolumn hcareful (hids rfl) text
    · exact (hcoherent t hold row' column' hrow' hcolumn').putSheet (hbefore t ht) hname
  | tried => exact hcareful.elim

/-- No edit ever leaves a stale verdict: in every workbook that careful requests lead to, the
verdict recorded for a cell of any sheet is that of a fresh check of the cell against the current
texts. -/
theorem CarefullyReachable.coherent (h : b.CarefullyReachable) : b.Coherent := by
  induction h with
  | new config => exact fun s hs => absurd hs List.not_mem_nil
  | @serve b h vars request hcareful hfits ih =>
    have hb := h.reachable.wellFormed
    exact ih.of_effect hb (effect_serve hb vars request) hcareful hfits

/-- The matcher of `pairBook` is built by a registered factory and fits its sheet. -/
theorem sameAsFirst_fits : CellRules.Fits "S" ⟨[sameAsFirst], []⟩ where
  goodData m hm := by
    obtain rfl := List.mem_singleton.mp hm
    have hmade : (Registry.builtinFactory .exact).instantiate ⟨Builtin.list, .empty⟩ true
        sameAsFirst.arguments = .ok (.matcher sameAsFirst) := rfl
    refine ⟨.rule ?_ hmade, rfl, ?_⟩
    · simpa [sameAsFirst] using ⟨Param.Built.cell _, Param.Built.cell _⟩
    · simp [Param.references, sameAsFirst, CellRange.sheet?]
  matchers := by simp
  replacers := by simp

/-- A workbook of one sheet fits when the sheet is small enough and the rules attached to it fit. -/
theorem fits_of_sheets_eq {s : Sheet} (h : b.sheets = [s])
    (hsize : s.rowCount * s.columns < UInt32.size) {rules : List CellRules}
    (hattached : s.attachments.map Attachment.rules = rules)
    (hrules : ∀ c ∈ rules, c.Fits s.name) : b.Fits := by
  intro t ht
  rw [h, List.mem_singleton] at ht
  subst ht hattached
  exact ⟨hsize, fun a ha => hrules a.rules (List.mem_map_of_mem ha)⟩

/-- Careful requests lead to `pairBook`. -/
theorem pairBook_carefullyReachable : pairBook.CarefullyReachable := by
  have hnew := CarefullyReachable.new .initial
  have hadded := hnew.serve .empty (.addSheet "S" 1) trivial
    (fits_of_sheets_eq rfl (by decide) rfl (List.forall_mem_nil _))
  have hloaded := hadded.serve .empty (.loadRows "S" [["a"], ["a"]]) trivial
    (fits_of_sheets_eq rfl (by decide) rfl (List.forall_mem_nil _))
  exact hloaded.serve .empty (.attach "S" .any ⟨[sameAsFirst], []⟩) trivial
    (fits_of_sheets_eq rfl (by decide) rfl (List.forall_mem_singleton.mpr sameAsFirst_fits))

/-- The second cell of `pairBook` is found invalid as soon as the first, which it must be like,
changes. -/
theorem coherent_pairBook_setValueAt :
    (pairBook.serve .empty (.setValueAt "S" 0 0 "b")).Coherent ∧
      (pairBook.serve .empty (.setValueAt "S" 0 0 "b")).verdictAt "S" 1 0 =
        .ok (some .invalid) := by
  have hreachable := pairBook_carefullyReachable.serve .empty (.setValueAt "S" 0 0 "b")
    (Nat.le_refl 1)
    (fits_of_sheets_eq rfl (by decide) rfl (List.forall_mem_singleton.mpr sameAsFirst_fits))
  exact ⟨hreachable.coherent, by decide +kernel⟩

end Workbook

end GridAudit
