import GridAudit.Proofs.Refusal
import GridAudit.Proofs.Replacing
import GridAudit.Proofs.Representation
import GridAudit.Proofs.Schedule

/-!
# Reports agree with the verdicts that are kept

A check finds a verdict for each cell of a list, counts them in a report, and records them in the
sheet afterwards. The cells of a list are numbers; a report names them by their addresses. So a
report counts what the sheet keeps if no address is repeated, be it among the cells that a change
reaches or among those of a row or of the whole sheet. This is shown for every request that checks
cells, in whatever workbook requests lead to, as long as the cells of the sheet can be numbered.
-/

namespace GridAudit

/-- The kinds of verdicts that a report tells apart. -/
inductive VerdictKind where
  | valid
  | replacement
  | exception
  | invalid
  deriving DecidableEq

/-- The kind of a verdict. -/
def Verdict.kind : Verdict → VerdictKind
  | .valid => .valid
  | .replacement _ => .replacement
  | .exception _ => .exception
  | .invalid => .invalid

namespace Report

/-- How many verdicts of a kind a report counts. -/
def tally (r : Report) : VerdictKind → Nat
  | .valid => r.valid
  | .replacement => r.replacement
  | .exception => r.exception
  | .invalid => r.invalid

/-- A further cell comes last. -/
@[simp] theorem evaluated_record (r : Report) (cell : CellAddress) (v : Verdict) :
    (r.record cell v).evaluated = r.evaluated ++ [cell] := by
  cases v <;> rfl

/-- A further verdict is counted with its kind. -/
theorem tally_record (r : Report) (cell : CellAddress) (v : Verdict) (kind : VerdictKind) :
    (r.record cell v).tally kind = r.tally kind + if v.kind = kind then 1 else 0 := by
  cases v <;> cases kind <;> rfl

/-- A report of cells with their verdicts names the cells in order. -/
theorem evaluated_ofVerdicts (results : List (CellAddress × Verdict)) (propagated : Nat) :
    (ofVerdicts results propagated).evaluated = results.map Prod.fst := by
  have hfold (r : Report) : (results.foldl (fun r cell => r.record cell.1 cell.2) r).evaluated =
      r.evaluated ++ results.map Prod.fst := by
    induction results generalizing r with
    | nil => simp
    | cons cell rest ih => rw [List.foldl_cons, ih, evaluated_record, List.append_assoc]; rfl
  exact hfold empty

/-- A report of cells with their verdicts counts the verdicts of each kind. -/
theorem tally_ofVerdicts (results : List (CellAddress × Verdict)) (propagated : Nat)
    (kind : VerdictKind) :
    (ofVerdicts results propagated).tally kind = results.countP fun cell => cell.2.kind = kind := by
  have hfold (r : Report) : (results.foldl (fun r cell => r.record cell.1 cell.2) r).tally kind =
      r.tally kind + results.countP fun cell => cell.2.kind = kind := by
    induction results generalizing r with
    | nil => rfl
    | cons cell rest ih =>
      rw [List.foldl_cons, ih, tally_record, List.countP_cons]
      simp only [decide_eq_true_eq]
      omega
  have hempty : empty.tally kind = 0 := by cases kind <;> rfl
  have htally : (ofVerdicts results propagated).tally kind =
      (results.foldl (fun r cell => r.record cell.1 cell.2) empty).tally kind := by
    cases kind <;> rfl
  rw [htally, hfold, hempty, Nat.zero_add]

/-- The counts of a report of cells with their verdicts add up to the number of cells. -/
theorem total_ofVerdicts (results : List (CellAddress × Verdict)) (propagated : Nat) :
    let r := ofVerdicts results propagated
    r.valid + r.replacement + r.exception + r.invalid = r.evaluationCount := by
  have hrecord (r : Report) (cell : CellAddress × Verdict)
      (h : r.valid + r.replacement + r.exception + r.invalid = r.evaluationCount) :
      let r' := r.record cell.1 cell.2
      r'.valid + r'.replacement + r'.exception + r'.invalid = r'.evaluationCount := by
    obtain ⟨cell, v⟩ := cell
    simp only [evaluationCount, evaluated_record, List.length_append, List.length_singleton] at h ⊢
    cases v <;> simp only [record, count] <;> omega
  exact List.foldlRecOn results _ (motive := fun r : Report =>
    r.valid + r.replacement + r.exception + r.invalid = r.evaluationCount) rfl
      fun r h cell _ => hrecord r cell h

end Report

/-! ## The cells of a sheet -/

namespace CellGraph

/-- The places of a sheet in their order are its indices in theirs. -/
theorem map_places {α : Type} (rows columns : Nat) (f : Nat → α) :
    (places rows columns).map (fun p => f (p.1 * columns + p.2)) =
      (List.range (rows * columns)).map f := by
  induction rows with
  | zero => simp [places]
  | succ rows ih =>
    have hplaces : places (rows + 1) columns =
        places rows columns ++ (List.range columns).map fun column => (rows, column) := by
      simp [places, List.range_succ]
    rw [hplaces, List.map_append, ih, Nat.succ_mul, List.range_add, List.map_append, List.map_map,
      List.map_map]
    rfl

/-- The cells that a change reaches are cells of the sheet. -/
theorem index_lt_of_mem_schedule {rows columns : Nat} {targets : Nat → Nat → List (Nat × Nat)}
    {origin id : CellId} {limit : Nat}
    (h : id ∈ ((build rows columns targets).schedule origin (.new limit)).1) :
    id.index < rows * columns := by
  obtain ⟨-, n, hdistance, hn, -⟩ := ((breadthFirst_schedule _ origin limit).mem_iff id).mp h
  obtain ⟨m, rfl⟩ := Nat.exists_eq_add_of_le' hn
  obtain ⟨cell, -, hid⟩ := hdistance.exists_pred
  obtain ⟨row, column, hrow, hcolumn, hreader, -⟩ :=
    mem_dependencies_build.mp (mem_dependents.mp hid).2
  have hreader : id = CellId.ofPlace row column columns := hreader
  rw [hreader]
  exact CellId.index_ofPlace_lt hrow hcolumn

end CellGraph

namespace Sheet

variable {s : Sheet}

/-- Different cells of a sheet have different addresses. -/
theorem WellFormed.addressOfId_inj (hs : s.WellFormed) {id id' : CellId}
    (hid : id.index < s.rowCount * s.columns) (hid' : id'.index < s.rowCount * s.columns)
    (h : s.addressOfId id = s.addressOfId id') : id = id' := by
  obtain ⟨row, column, -, -, rfl, haddress⟩ := hs.exists_numberOf_eq hid
  obtain ⟨row', column', -, -, rfl, haddress'⟩ := hs.exists_numberOf_eq hid'
  rw [haddress, haddress'] at h
  obtain ⟨-, rfl, rfl⟩ := CellAddress.mk.inj h
  rfl

/-- The addresses of all cells of a sheet, row by row. -/
def addresses (s : Sheet) : List CellAddress :=
  (CellGraph.places s.rowCount s.columns).map fun p => s.addressOf p.1 p.2

/-- The addresses of the cells of a row of a sheet. -/
def rowAddresses (s : Sheet) (row : Nat) : List CellAddress :=
  (List.range s.columns).map fun column => s.addressOf row column

/-- No address of a sheet is repeated. -/
theorem nodup_addresses (s : Sheet) : s.addresses.Nodup := by
  refine (CellGraph.nodup_places _ _).map ?_
  rintro ⟨row, column⟩ ⟨row', column'⟩ h
  obtain ⟨-, rfl, rfl⟩ := CellAddress.mk.inj h
  rfl

/-- No address of a row is repeated. -/
theorem nodup_rowAddresses (s : Sheet) (row : Nat) : (s.rowAddresses row).Nodup :=
  List.nodup_range.map fun _ _ h => (CellAddress.mk.inj h).2.2

/-- The numbers of all cells of a sheet in order have its addresses in order. -/
theorem map_addressOfId_cellIds (hs : s.WellFormed) (hsize : s.rowCount * s.columns < UInt32.size) :
    s.cellIds.map s.addressOfId = s.addresses := by
  rw [cellIds, ← CellGraph.map_places, List.map_map]
  refine List.map_congr_left fun p hp => ?_
  obtain ⟨hrow, hcolumn⟩ := CellGraph.mem_places.mp hp
  exact addressOfId_numberOf hs hsize hrow hcolumn

/-- The numbers of the cells of a row have the addresses of the row. -/
theorem map_addressOfId_row (hs : s.WellFormed) (hsize : s.rowCount * s.columns < UInt32.size)
    {row : Nat} (hrow : row < s.rowCount) :
    ((List.range s.columns).map (s.numberOf row)).map s.addressOfId = s.rowAddresses row := by
  rw [List.map_map]
  refine List.map_congr_left fun column hcolumn => ?_
  exact addressOfId_numberOf hs hsize hrow (List.mem_range.mp hcolumn)

end Sheet

/-! ## Checks -/

namespace Workbook

variable {b : Workbook} {vars : Variables} {s : Sheet}

/-- The kind of the verdict of a cell, if it was checked. -/
def kindAt? (b : Workbook) (a : CellAddress) : Option VerdictKind :=
  match b.verdictAt a.sheet a.row a.column with
  | .ok v => v.map Verdict.kind
  | .error _ => none

/-- A report that is the last one of a workbook and agrees with it about the cells of a sheet. -/
structure Tells (b : Workbook) (s : Sheet) (r : Report) : Prop where
  last : b.lastReport = some r
  /-- No cell is checked twice. -/
  distinct : r.evaluated.Nodup
  /-- Only cells of the sheet are checked. -/
  within : ∀ a ∈ r.evaluated, a.sheet = s.name ∧ a.row < s.rowCount ∧ a.column < s.columns
  /-- Each verdict is counted. -/
  total : r.valid + r.replacement + r.exception + r.invalid = r.evaluationCount
  /-- Each kind is counted as often as it is kept. -/
  tallies : ∀ kind, r.tally kind = r.evaluated.countP fun a => b.kindAt? a = some kind

/-- The report of a check of cells. -/
def checkReport (b : Workbook) (vars : Variables) (trial : Option Trial) (s : Sheet)
    (ids : List CellId) (propagated : Nat) : Report :=
  .ofVerdicts (ids.map fun id => (s.addressOfId id, b.probeCell vars trial s id)) propagated

/-- A check of cells answers its report. -/
theorem answer_checkCells (trial : Option Trial) (ids : List CellId) (propagated : Nat) :
    (b.checkCells vars trial s ids propagated).answer =
      .ok (b.checkReport vars trial s ids propagated) := by
  simp only [checkCells, checkReport, List.map_map]
  rfl

/-- The report of a check names the cells that are checked. -/
theorem evaluated_checkReport (trial : Option Trial) (ids : List CellId) (propagated : Nat) :
    (b.checkReport vars trial s ids propagated).evaluated = ids.map s.addressOfId := by
  rw [checkReport, Report.evaluated_ofVerdicts, List.map_map]
  rfl

/-- The report of a check of different cells agrees with the verdicts that the check records. -/
theorem tells_checkCells (hs : b.sheet? s.name = some s) (hwell : s.WellFormed) {ids : List CellId}
    (hids : ∀ id ∈ ids, id.index < s.rowCount * s.columns)
    (hdistinct : (ids.map s.addressOfId).Nodup) (trial : Option Trial) (propagated : Nat) :
    Tells (b.checkCells vars trial s ids propagated).book s
      (b.checkReport vars trial s ids propagated) := by
  have hkind : ∀ id ∈ ids, (b.checkCells vars trial s ids propagated).book.kindAt?
      (s.addressOfId id) = some (b.probeCell vars trial s id).kind := by
    intro id hid
    obtain ⟨row, column, hrow, hcolumn, hnumber, haddress⟩ := hwell.exists_numberOf_eq (hids id hid)
    have hverdict := verdictAt_checkCells hs vars trial ids propagated s.name row column
    rw [if_pos rfl, verdictAt_store hrow hcolumn (hnumber ▸ hid), hnumber] at hverdict
    simp only [kindAt?, haddress, Sheet.addressOf, hverdict, Option.map_some]
  constructor
  case last =>
    have hanswer : (b.checkCells vars trial s ids propagated).answer =
        .ok (b.checkReport vars trial s ids propagated) := answer_checkCells trial ids propagated
    exact congrArg some (Except.ok.inj hanswer)
  case distinct =>
    rw [evaluated_checkReport]
    exact hdistinct
  case within =>
    intro a ha
    rw [evaluated_checkReport] at ha
    obtain ⟨id, hid, rfl⟩ := List.mem_map.mp ha
    obtain ⟨row, column, hrow, hcolumn, -, haddress⟩ := hwell.exists_numberOf_eq (hids id hid)
    rw [haddress]
    exact ⟨rfl, hrow, hcolumn⟩
  case total => exact Report.total_ofVerdicts _ _
  case tallies =>
    intro kind
    rw [evaluated_checkReport, checkReport, Report.tally_ofVerdicts, List.countP_map,
      List.countP_map]
    refine List.countP_congr fun id hid => ?_
    simp [hkind id hid]

/-- A check keeps the verdicts of all cells that it does not check. -/
theorem verdictAt_checkCells_of_notMem (hs : b.sheet? s.name = some s) (hwell : s.WellFormed)
    (hsize : s.rowCount * s.columns < UInt32.size) {ids : List CellId} {a : CellAddress}
    (ha : a ∉ ids.map s.addressOfId) (trial : Option Trial) (propagated : Nat) :
    (b.checkCells vars trial s ids propagated).book.verdictAt a.sheet a.row a.column =
      b.verdictAt a.sheet a.row a.column := by
  obtain ⟨name, row, column⟩ := a
  rw [verdictAt_checkCells hs vars trial ids propagated]
  split
  · next hname =>
    have hname : name = s.name := hname
    subst hname
    rw [verdictAt_eq hs]
    refine verdictAt_store_of_notMem (fun hrow hcolumn hid => ha ?_) _
    have haddress := Sheet.addressOfId_numberOf hwell hsize hrow hcolumn
    exact List.mem_map.mpr ⟨_, hid, haddress⟩
  · rfl

end Workbook

/-! ## Requests -/

/-- The sheet whose cells a request checks. -/
def Request.checked? : Request → Option String
  | .addSheet _ _ | .setPropagationDepth _ => none
  | .attach name _ _ | .loadRows name _ | .insertRows name _ _ | .removeRows name _ _
  | .insertColumn name _ _ | .removeColumn name _ | .setValueAt name _ _ _
  | .tryValueAt name _ _ _ | .recomputeAll name | .recomputeRow name _ => some name

namespace Workbook

variable {b b' : Workbook} {vars : Variables} {s : Sheet} {r : Report}

/-- The report that a request makes, unless it is refused. A trial answers a verdict, and its report
is that of the check it consists of. -/
def report? (b : Workbook) (vars : Variables) : Request → Option Report
  | .addSheet _ _ | .setPropagationDepth _ => none
  | .attach name range rules => (b.attach vars name range rules).answer.toOption
  | .loadRows name rows => (b.loadRows vars name rows).answer.toOption
  | .insertRows name place rows => (b.insertRows vars name place rows).answer.toOption
  | .removeRows name place count => (b.removeRows vars name place count).answer.toOption
  | .insertColumn name place fill => (b.insertColumn vars name place fill).answer.toOption
  | .removeColumn name place => (b.removeColumn vars name place).answer.toOption
  | .setValueAt name row column text => (b.setValueAt vars name row column text).answer.toOption
  | .tryValueAt name row column text =>
    (b.recomputeFrom vars name row column (some text)).answer.toOption
  | .recomputeAll name => (b.recomputeAll vars name).answer.toOption
  | .recomputeRow name row => (b.recomputeRow vars name row).answer.toOption

/-- A report of a cell that was edited and the cells that the edit reached, which kept the verdicts
of all others. -/
structure Spreads (b b' : Workbook) (edited : CellAddress) (r : Report) : Prop where
  first : r.evaluated.head? = some edited
  propagated : r.propagated + 1 = r.evaluationCount
  kept : ∀ a ∉ r.evaluated,
    b'.verdictAt a.sheet a.row a.column = b.verdictAt a.sheet a.row a.column

/-- Which cells of a sheet the report of a request is about. -/
def Scope (b b' : Workbook) (s : Sheet) (r : Report) : Request → Prop
  | .addSheet _ _ | .setPropagationDepth _ => True
  | .setValueAt _ row column _ | .tryValueAt _ row column _ =>
    b.Spreads b' (s.addressOf row column) r
  | .recomputeRow _ row => r.evaluated = s.rowAddresses row ∧ r.propagated = 0
  | .attach _ _ _ | .loadRows _ _ | .insertRows _ _ _ | .removeRows _ _ _ | .insertColumn _ _ _
  | .removeColumn _ _ | .recomputeAll _ => r.evaluated = s.addresses ∧ r.propagated = 0

/-- A request leaves a sheet and a report of it, which is the one it makes, agrees with the verdicts
that are kept then, and is about the cells that the request concerns. -/
structure Reports (b : Workbook) (vars : Variables) (request : Request) (s : Sheet) (r : Report) :
    Prop where
  made : b.report? vars request = some r
  tells : (b.serve vars request).Tells s r
  scope : b.Scope (b.serve vars request) s r request

/-- The cells that a change of a cell reaches are cells of the sheet, none twice. -/
theorem reach_spec (hwell : s.WellFormed) {row column : Nat} (hrow : row < s.rowCount)
    (hcolumn : column < s.columns) :
    (∀ id ∈ b.reach s row column, id.index < s.rowCount * s.columns) ∧
      ((b.reach s row column).map s.addressOfId).Nodup := by
  have hrows : s.rows ≠ [] := List.ne_nil_of_length_pos (Nat.zero_lt_of_lt hrow)
  have hwithin : ∀ id ∈ b.reach s row column, id.index < s.rowCount * s.columns := by
    intro id hid
    rcases List.mem_cons.mp hid with rfl | hid
    · exact CellId.index_ofPlace_lt hrow hcolumn
    · rw [hwell.built hrows] at hid
      exact CellGraph.index_lt_of_mem_schedule hid
  have hscheduled := s.graph.scheduled_schedule (s.numberOf row column)
    (Token.new b.config.propagationDepth)
  have hnodup : (b.reach s row column).Nodup := List.nodup_cons.mpr
    ⟨fun hid => (hscheduled.fresh _ hid).1 rfl, hscheduled.nodup⟩
  refine ⟨hwithin, hnodup.map_on fun id hid id' hid' h => ?_⟩
  exact hwell.addressOfId_inj (hwithin id hid) (hwithin id' hid') h

/-- The report of a check of all cells of a sheet. -/
theorem tells_checkCells_cellIds (hs : b.sheet? s.name = some s) (hwell : s.WellFormed)
    (hsize : s.rowCount * s.columns < UInt32.size) (vars : Variables) :
    Tells (b.checkCells vars none s s.cellIds 0).book s (b.checkReport vars none s s.cellIds 0) ∧
      (b.checkReport vars none s s.cellIds 0).evaluated = s.addresses := by
  have haddresses := Sheet.map_addressOfId_cellIds hwell hsize
  refine ⟨tells_checkCells hs hwell (fun id => Sheet.mem_cellIds.mp) ?_ none 0, ?_⟩
  · rw [haddresses]
    exact s.nodup_addresses
  · rw [evaluated_checkReport, haddresses]

/-- The report of a check of a cell and the cells that a change of it reaches. -/
theorem tells_checkCells_reach {t : Sheet} (hs : b.sheet? t.name = some t) (hwell : t.WellFormed)
    (hsize : t.rowCount * t.columns < UInt32.size) {row column : Nat} (hrow : row < t.rowCount)
    (hcolumn : column < t.columns) (vars : Variables) (trial : Option Trial) :
    let ids := b.reach t row column
    let checked := b.checkCells vars trial t ids (ids.length - 1)
    checked.book.Tells t (b.checkReport vars trial t ids (ids.length - 1)) ∧
      b.Spreads checked.book (t.addressOf row column)
        (b.checkReport vars trial t ids (ids.length - 1)) := by
  intro ids checked
  obtain ⟨hids, hdistinct⟩ := reach_spec (b := b) hwell hrow hcolumn
  have hfirst := Sheet.addressOfId_numberOf hwell hsize hrow hcolumn
  refine ⟨tells_checkCells hs hwell hids hdistinct trial _, ?_⟩
  constructor
  case first =>
    rw [evaluated_checkReport]
    exact congrArg some hfirst
  case propagated =>
    rw [Report.evaluationCount, evaluated_checkReport, List.length_map]
    rfl
  case kept =>
    intro a ha
    rw [evaluated_checkReport] at ha
    exact verdictAt_checkCells_of_notMem hs hwell hsize ha trial _

/-- A request is followed by a check of cells: it leaves the workbook and makes the report that the
check does. -/
structure Checks (b : Workbook) (vars : Variables) (request : Request) (checked : Reply Report) :
    Prop where
  serve : b.serve vars request = checked.book
  report : b.report? vars request = checked.answer.toOption

/-- The sheet whose cells are checked gets their verdicts. -/
theorem Checks.sheet?_serve {request : Request} {c : Workbook} {t : Sheet} {trial : Option Trial}
    {ids : List CellId} {propagated : Nat}
    (h : b.Checks vars request (c.checkCells vars trial t ids propagated))
    (ht : c.sheet? t.name = some t) : (b.serve vars request).sheet? t.name =
      some (t.store (ids.map fun id => (id, c.probeCell vars trial t id))) := by
  rw [h.serve]
  exact sheet?_putSheet_self ht rfl

/-- A request followed by a check whose report agrees with the verdicts, and is about the cells that
the request concerns. -/
theorem Checks.reports {request : Request} {c : Workbook} {t : Sheet} {trial : Option Trial}
    {ids : List CellId} {propagated : Nat}
    (h : b.Checks vars request (c.checkCells vars trial t ids propagated))
    (ht : c.sheet? t.name = some t)
    (htells : Tells (c.checkCells vars trial t ids propagated).book t
      (c.checkReport vars trial t ids propagated))
    (hscope : b.Scope (c.checkCells vars trial t ids propagated).book t
      (c.checkReport vars trial t ids propagated) request) :
    ∃ s r, (b.serve vars request).sheet? t.name = some s ∧ b.Reports vars request s r := by
  have hfound := h.sheet?_serve ht
  rw [← h.serve] at htells hscope
  refine ⟨_, c.checkReport vars trial t ids propagated, hfound, ?_, ?_, ?_⟩
  · rw [h.report, answer_checkCells]
    rfl
  · exact ⟨htells.last, htells.distinct, htells.within, htells.total, htells.tallies⟩
  · cases request <;> exact hscope

/-- A request that is followed by a check of all cells of a sheet reports them. -/
theorem Checks.reports_whole {request : Request} {c : Workbook} {t : Sheet}
    (h : b.Checks vars request (c.checkCells vars none t t.cellIds 0))
    (ht : c.sheet? t.name = some t) (hwell : t.WellFormed)
    (hsize : ∀ s, (b.serve vars request).sheet? t.name = some s →
      s.rowCount * s.columns < UInt32.size)
    (hscope : ∀ b' r, r.evaluated = t.addresses ∧ r.propagated = 0 → b.Scope b' t r request) :
    ∃ s r, (b.serve vars request).sheet? t.name = some s ∧ b.Reports vars request s r := by
  have hstored := hsize _ (h.sheet?_serve ht)
  obtain ⟨htells, hevaluated⟩ := tells_checkCells_cellIds ht hwell hstored vars
  exact h.reports ht htells (hscope _ _ ⟨hevaluated, rfl⟩)

/-- What does not fail is found. -/
theorem exists_eq_ok_of_failure? {α : Type} {found : Except SheetError α}
    (h : failure? found = none) : ∃ a, found = .ok a := by
  cases found with
  | ok a => exact ⟨a, rfl⟩
  | error e => contradiction

/-- A change that makes a sheet anew and is not refused is followed by a check of all of it. -/
theorem exists_reshape_eq {name : String} {change : Sheet → Except SheetError Sheet}
    (hchange : ∀ s s', change s = .ok s' → s.Remade s')
    (h : (b.reshape vars name change).refusal? = none) :
    ∃ s t, b.sheet? name = some s ∧ s.Remade t ∧
      b.reshape vars name change = (b.putSheet t).checkCells vars none t t.cellIds 0 := by
  rw [(follows_reshape hchange).refusal?_eq] at h
  obtain ⟨t, hfound⟩ := exists_eq_ok_of_failure? h
  obtain ⟨s, hs, ht⟩ := bind_eq_ok.mp hfound
  have hs' := sheet_eq_ok.mp hs
  obtain rfl := name_of_sheet? hs'
  have hremade := hchange s t ht
  refine ⟨s, t, hs', hremade, ?_⟩
  simp only [reshape, edit, hs, goOn, ht]
  exact recomputeAll_putSheet hs' hremade.name

/-- A change that makes a sheet anew reports all of the sheet. -/
theorem exists_reports_reshape (hb : b.WellFormed) {request : Request} {name : String}
    {change : Sheet → Except SheetError Sheet}
    (hchange : ∀ s s', change s = .ok s' → s.Remade s')
    (h : b.Checks vars request (b.reshape vars name change))
    (hserved : (b.reshape vars name change).refusal? = none)
    (hsize : ∀ s, (b.serve vars request).sheet? name = some s →
      s.rowCount * s.columns < UInt32.size)
    (hscope : ∀ b' s r, r.evaluated = s.addresses ∧ r.propagated = 0 → b.Scope b' s r request) :
    ∃ s r, (b.serve vars request).sheet? name = some s ∧ b.Reports vars request s r := by
  obtain ⟨s, t, hs, hremade, heq⟩ := exists_reshape_eq hchange hserved
  obtain rfl := name_of_sheet? hs
  have ht := sheet?_putSheet_self hs hremade.name
  rw [heq] at h
  rw [← hremade.name] at ht hsize ⊢
  have hwell := hremade.wellFormed (hb.sheets s (mem_of_sheet? hs))
  exact h.reports_whole ht hwell hsize fun b' r => hscope b' t r

/-- A request that is followed by a check of a cell and the cells it reaches reports them, when no
verdict changed before the check. -/
theorem Checks.reports_reach {request : Request} {c : Workbook} {t : Sheet}
    {row column : Nat} {trial : Option Trial}
    (h : b.Checks vars request (c.checkCells vars trial t (c.reach t row column)
      ((c.reach t row column).length - 1)))
    (ht : c.sheet? t.name = some t) (hwell : t.WellFormed) (hrow : row < t.rowCount)
    (hcolumn : column < t.columns)
    (hsize : ∀ s, (b.serve vars request).sheet? t.name = some s →
      s.rowCount * s.columns < UInt32.size)
    (hkept : ∀ name row column, c.verdictAt name row column = b.verdictAt name row column)
    (hscope : ∀ b' r, b.Spreads b' (t.addressOf row column) r → b.Scope b' t r request) :
    ∃ s r, (b.serve vars request).sheet? t.name = some s ∧ b.Reports vars request s r := by
  have hstored := hsize _ (h.sheet?_serve ht)
  obtain ⟨htells, hspreads⟩ := tells_checkCells_reach ht hwell hstored hrow hcolumn vars trial
  refine h.reports ht htells (hscope _ _ ⟨hspreads.first, hspreads.propagated, ?_⟩)
  intro a ha
  rw [hspreads.kept a ha, hkept]

/-- A sheet with a text written keeps its verdicts until cells are checked. -/
theorem verdictAt_putSheet_write (hs : b.sheet? s.name = some s) (row column : Nat) (text : String)
    (name : String) (row' column' : Nat) :
    (b.putSheet (s.write row column text)).verdictAt name row' column' =
      b.verdictAt name row' column' := by
  have hsheets : (b.putSheet (s.write row column text)).sheets =
      (b.putSheet (s.write row column text)).sheets := rfl
  rw [verdictAt_of_putSheet hsheets hs rfl]
  split
  · next hname =>
    subst hname
    rw [verdictAt_eq hs]
    exact verdictAt_write_store s row column text [] row' column'
  · rfl

/-- A text that is written is reported with the cells it reaches. -/
theorem exists_reports_setValueAt (hb : b.WellFormed) {name : String} {row column : Nat}
    {text : String} (hserved : (b.setValueAt vars name row column text).refusal? = none)
    (hsize : ∀ s, (b.serve vars (.setValueAt name row column text)).sheet? name = some s →
      s.rowCount * s.columns < UInt32.size) :
    ∃ s r, (b.serve vars (.setValueAt name row column text)).sheet? name = some s ∧
      b.Reports vars (.setValueAt name row column text) s r := by
  rw [(follows_setValueAt hb name row column text).refusal?_eq] at hserved
  obtain ⟨t, hfound⟩ := exists_eq_ok_of_failure? hserved
  obtain ⟨s, hs, hset⟩ := bind_eq_ok.mp hfound
  have hs := sheet_eq_ok.mp hs
  obtain rfl := name_of_sheet? hs
  obtain ⟨hold, rfl⟩ := Sheet.setCell_eq_ok.mp hset
  have hwell := hb.sheets s (mem_of_sheet? hs)
  obtain ⟨hrow, hcolumn⟩ := hwell.exists_text?_iff.mp hold
  have hchecks : b.Checks vars (.setValueAt s.name row column text) _ :=
    ⟨congrArg Reply.book (setValueAt_eq hb hs hrow hcolumn text),
      congrArg (Except.toOption ∘ Reply.answer) (setValueAt_eq hb hs hrow hcolumn text)⟩
  have hput := sheet?_putSheet_self hs (s.name_write row column text)
  have hrow' : row < (s.write row column text).rowCount := by rwa [Sheet.rowCount_write]
  exact hchecks.reports_reach hput (hwell.write row column text) hrow' hcolumn hsize
    (verdictAt_putSheet_write hs row column text) fun _ _ h => h

/-- A text that is tried is reported with the cells it reaches. -/
theorem exists_reports_tryValueAt (hb : b.WellFormed) {name : String} {row column : Nat}
    {text : String} (hserved : (b.tryValueAt vars name row column text).refusal? = none)
    (hsize : ∀ s, (b.serve vars (.tryValueAt name row column text)).sheet? name = some s →
      s.rowCount * s.columns < UInt32.size) :
    ∃ s r, (b.serve vars (.tryValueAt name row column text)).sheet? name = some s ∧
      b.Reports vars (.tryValueAt name row column text) s r := by
  rw [(follows_tryValueAt name row column text).refusal?_eq] at hserved
  obtain ⟨id, hfound⟩ := exists_eq_ok_of_failure? hserved
  obtain ⟨s, hs, hid⟩ := bind_eq_ok.mp hfound
  have hs := sheet_eq_ok.mp hs
  obtain rfl := name_of_sheet? hs
  obtain ⟨hrow, hcolumn, -⟩ := Sheet.cellId_eq_ok.mp hid
  have hchecks : b.Checks vars (.tryValueAt s.name row column text) _ :=
    ⟨congrArg Reply.book (tryValueAt_eq hs hrow hcolumn text),
      congrArg (Except.toOption ∘ Reply.answer) (recomputeFrom_eq hs hrow hcolumn (some text))⟩
  exact hchecks.reports_reach hs (hb.sheets s (mem_of_sheet? hs)) hrow hcolumn hsize
    (fun _ _ _ => rfl) fun _ _ h => h

/-- A check of a sheet reports all of it. -/
theorem exists_reports_recomputeAll (hb : b.WellFormed) {name : String}
    (hserved : (b.recomputeAll vars name).refusal? = none)
    (hsize : ∀ s, (b.serve vars (.recomputeAll name)).sheet? name = some s →
      s.rowCount * s.columns < UInt32.size) :
    ∃ s r, (b.serve vars (.recomputeAll name)).sheet? name = some s ∧
      b.Reports vars (.recomputeAll name) s r := by
  have hfollows : (b.recomputeAll vars name).Follows b (b.sheet name) :=
    .goOn_answered fun _ _ => refusal?_checkCells ..
  rw [hfollows.refusal?_eq] at hserved
  obtain ⟨s, hs⟩ := exists_eq_ok_of_failure? hserved
  have heq : b.recomputeAll vars name = b.checkCells vars none s s.cellIds 0 := by
    simp only [recomputeAll, hs, goOn, Sheet.cellIds]
  have hchecks : b.Checks vars (.recomputeAll name) (b.checkCells vars none s s.cellIds 0) :=
    ⟨congrArg Reply.book heq, congrArg (Except.toOption ∘ Reply.answer) heq⟩
  have hs := sheet_eq_ok.mp hs
  obtain rfl := name_of_sheet? hs
  exact hchecks.reports_whole hs (hb.sheets s (mem_of_sheet? hs)) hsize fun _ _ h => h

/-- A check of a row reports it. -/
theorem exists_reports_recomputeRow (hb : b.WellFormed) {name : String} {row : Nat}
    (hserved : (b.recomputeRow vars name row).refusal? = none)
    (hsize : ∀ s, (b.serve vars (.recomputeRow name row)).sheet? name = some s →
      s.rowCount * s.columns < UInt32.size) :
    ∃ s r, (b.serve vars (.recomputeRow name row)).sheet? name = some s ∧
      b.Reports vars (.recomputeRow name row) s r := by
  rw [(follows_recomputeRow name row).refusal?_eq] at hserved
  obtain ⟨t, hfound⟩ := exists_eq_ok_of_failure? hserved
  obtain ⟨s, hs, hrow⟩ := bind_eq_ok.mp hfound
  have hrow : row < s.rowCount := by
    split at hrow
    · contradiction
    · omega
  let ids := (List.range s.columns).map (s.numberOf row)
  have heq : b.recomputeRow vars name row = b.checkCells vars none s ids 0 := by
    simp only [recomputeRow, hs, goOn, Nat.not_le.mpr hrow, ↓reduceIte]
    rfl
  have hchecks : b.Checks vars (.recomputeRow name row) (b.checkCells vars none s ids 0) :=
    ⟨congrArg Reply.book heq, congrArg (Except.toOption ∘ Reply.answer) heq⟩
  have hs := sheet_eq_ok.mp hs
  obtain rfl := name_of_sheet? hs
  have hwell := hb.sheets s (mem_of_sheet? hs)
  have hstored := hsize _ (hchecks.sheet?_serve hs)
  have haddresses : ids.map s.addressOfId = s.rowAddresses row :=
    Sheet.map_addressOfId_row hwell hstored hrow
  have hids : ∀ id ∈ ids, id.index < s.rowCount * s.columns := by
    intro id hid
    obtain ⟨column, hcolumn, rfl⟩ := List.mem_map.mp hid
    exact CellId.index_ofPlace_lt hrow (List.mem_range.mp hcolumn)
  refine hchecks.reports hs (tells_checkCells hs hwell hids ?_ none 0) ⟨?_, rfl⟩
  · rw [haddresses]
    exact s.nodup_rowAddresses row
  · rw [evaluated_checkReport, haddresses]

/-- Reports agree with the verdicts that are kept: a request that checks cells and is not refused
leaves the sheet with the verdicts that its report counts, cell by cell, for the cells it concerns.
The cells of the sheet must have different numbers, without which it has no graph either. -/
theorem Reachable.exists_reports (hb : b.Reachable) (vars : Variables) (request : Request)
    {name : String} (hname : request.checked? = some name)
    (hserved : b.refusal? vars request = none)
    (hsize : ∀ s, (b.serve vars request).sheet? name = some s →
      s.rowCount * s.columns < UInt32.size) :
    ∃ s r, (b.serve vars request).sheet? name = some s ∧ b.Reports vars request s r := by
  have hwell := hb.wellFormed
  cases request with
  | addSheet | setPropagationDepth => contradiction
  | attach =>
    obtain rfl := Option.some.inj hname
    exact exists_reports_reshape hwell (fun _ _ => Sheet.remade_of_attach) ⟨rfl, rfl⟩ hserved hsize
      fun _ _ _ h => h
  | loadRows =>
    obtain rfl := Option.some.inj hname
    exact exists_reports_reshape hwell (fun _ _ => Sheet.remade_of_loadRows) ⟨rfl, rfl⟩ hserved
      hsize fun _ _ _ h => h
  | insertRows =>
    obtain rfl := Option.some.inj hname
    exact exists_reports_reshape hwell (fun _ _ => Sheet.remade_of_insertRows) ⟨rfl, rfl⟩ hserved
      hsize fun _ _ _ h => h
  | removeRows =>
    obtain rfl := Option.some.inj hname
    exact exists_reports_reshape hwell (fun _ _ => Sheet.remade_of_removeRows) ⟨rfl, rfl⟩ hserved
      hsize fun _ _ _ h => h
  | insertColumn =>
    obtain rfl := Option.some.inj hname
    exact exists_reports_reshape hwell (fun _ _ => Sheet.remade_of_insertColumn) ⟨rfl, rfl⟩ hserved
      hsize fun _ _ _ h => h
  | removeColumn =>
    obtain rfl := Option.some.inj hname
    exact exists_reports_reshape hwell (fun _ _ => Sheet.remade_of_removeColumn) ⟨rfl, rfl⟩ hserved
      hsize fun _ _ _ h => h
  | setValueAt =>
    obtain rfl := Option.some.inj hname
    exact exists_reports_setValueAt hwell hserved hsize
  | tryValueAt =>
    obtain rfl := Option.some.inj hname
    exact exists_reports_tryValueAt hwell hserved hsize
  | recomputeAll =>
    obtain rfl := Option.some.inj hname
    exact exists_reports_recomputeAll hwell hserved hsize
  | recomputeRow =>
    obtain rfl := Option.some.inj hname
    exact exists_reports_recomputeRow hwell hserved hsize

/-- A row inserted between two that hold one text differs from the first. Its report tells of all
three cells, two of them valid. -/
theorem exists_reports_pairBook_insertRows :
    let request : Request := .insertRows "S" 1 [["c"]]
    request.checked? = some "S" ∧ pairBook.refusal? .empty request = none ∧
      ∃ s r, (pairBook.serve .empty request).sheet? "S" = some s ∧
        s.rowCount * s.columns < UInt32.size ∧ pairBook.Reports .empty request s r ∧
          r.evaluated = [⟨"S", 0, 0⟩, ⟨"S", 1, 0⟩, ⟨"S", 2, 0⟩] ∧ r.valid = 2 ∧ r.invalid = 1 := by
  intro request
  have hsize : ∀ s, (pairBook.serve .empty request).sheet? "S" = some s →
      s.rowCount * s.columns < UInt32.size := by
    intro s hs
    obtain rfl := Option.some.inj hs
    decide
  obtain ⟨s, r, hs, hreports⟩ :=
    pairBook_reachable.exists_reports .empty request rfl rfl hsize
  obtain rfl := Option.some.inj hreports.made
  exact ⟨rfl, rfl, s, _, hs, hsize s hs, hreports, rfl, rfl, rfl⟩

end Workbook

end GridAudit
