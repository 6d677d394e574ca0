import GridAudit.Proofs.Phases
import GridAudit.Proofs.ReferenceRelation
import GridAudit.Proofs.Registered
import GridAudit.Proofs.Reports
import GridAudit.Proofs.Typing

/-!
# Attached rules are two lists

Of the rules on a cell a check sees two lists, the good data and the corrections of all that was
attached, each in order. Whether good data passes hangs on the conjunction of its matchers alone: a
matcher that fails counts as one that refuses, so it makes no difference that the built-in `All`
stops with the failure where separate matchers are refused. What the rules read goes into the graph
as a set. So rules may be attached one after another or at once, and good data matcher by matcher
or as one `All`: every verdict, every list of the graph and the last report stay.
-/

namespace GridAudit

/-! ## Rules on a cell -/

namespace CellRules

/-- The rules with others after them, as one. -/
def append (rules more : CellRules) : CellRules :=
  ⟨rules.goodData ++ more.goodData, rules.corrections ++ more.corrections⟩

/-- An address is read by good data of the rules. -/
def ReadByGoodData (rules : List CellRules) (r : CellRange) : Prop :=
  ∃ m ∈ rules.flatMap goodData, r ∈ m.references

/-- Lists of rules that hold the same corrections, whose good data passes in the same contexts and
reads the same addresses. -/
structure Alike (rules rules' : List CellRules) : Prop where
  corrections : rules.flatMap corrections = rules'.flatMap corrections
  passes : ∀ ctx, goodDataPasses rules ctx = goodDataPasses rules' ctx
  reads : ∀ r, ReadByGoodData rules r ↔ ReadByGoodData rules' r

/-- Rules read what their good data and their corrections read. -/
theorem mem_flatMap_references {rules : List CellRules} {r : CellRange} :
    r ∈ rules.flatMap references ↔ ReadByGoodData rules r ∨
      ∃ c ∈ rules.flatMap corrections, r ∈ c.matcher.references ∨ r ∈ c.replacer.references := by
  simp only [ReadByGoodData, List.mem_flatMap, mem_references]
  grind

namespace Alike

variable {rules rules' : List CellRules}

/-- Rules are alike as long as the lists they come to are the same. -/
theorem of_flattened (hgoodData : rules.flatMap goodData = rules'.flatMap goodData)
    (hcorrections : rules.flatMap CellRules.corrections = rules'.flatMap CellRules.corrections) :
    Alike rules rules' where
  corrections := hcorrections
  passes ctx := by rw [goodDataPasses, hgoodData, goodDataPasses]
  reads r := by rw [ReadByGoodData, hgoodData, ReadByGoodData]

/-- Alike rules stay alike after the same rules. -/
theorem append_left (h : Alike rules rules') (before : List CellRules) :
    Alike (before ++ rules) (before ++ rules') where
  corrections := by rw [List.flatMap_append, h.corrections, List.flatMap_append]
  passes ctx := by
    have hpasses : goodDataPasses rules ctx = goodDataPasses rules' ctx := h.passes ctx
    unfold goodDataPasses at hpasses ⊢
    rw [List.flatMap_append, List.all_append, hpasses, List.flatMap_append, List.all_append]
  reads r := by
    have hreads := h.reads r
    unfold ReadByGoodData at hreads ⊢
    simp only [List.flatMap_append, List.mem_append, or_and_right, exists_or, hreads]

/-- A cell with alike rules gets the same verdict. -/
theorem probe_eq (h : Alike rules rules') (ctx : Context) : probe rules ctx = probe rules' ctx := by
  have hfirst : firstCorrection? rules ctx = firstCorrection? rules' ctx := by
    rw [firstCorrection?, h.corrections, firstCorrection?]
  exact probe_congr (h.passes ctx) (congrArg _ hfirst)

/-- Alike rules read the same addresses. -/
theorem mem_references_iff (h : Alike rules rules') (r : CellRange) :
    r ∈ rules.flatMap references ↔ r ∈ rules'.flatMap references := by
  rw [mem_flatMap_references, mem_flatMap_references, h.reads, h.corrections]

end Alike

/-- Rules attached in turn are alike those attached as one. -/
theorem alike_append (rules more : CellRules) : Alike [rules, more] [rules.append more] :=
  .of_flattened (by simp [append]) (by simp [append])

end CellRules

/-! ## Good data as one matcher -/

/-- A conjunction accepts when each of its tests does, and accepts none when one before fails. -/
theorem Test.runAll_eq_ok_true {ctx : Context} {tests : List Test} :
    Test.runAll ctx tests = .ok true ↔ ∀ t ∈ tests, t.run ctx = .ok true := by
  induction tests with
  | nil => simp [runAll]
  | cons t rest ih =>
    rw [runAll, List.forall_mem_cons, ← ih]
    cases t.run ctx with
    | error e => simp [bind, Except.bind]
    | ok accepted => cases accepted <;> simp [bind, Except.bind, pure, Except.pure]

/-- Matchers as the arguments of `All`. -/
def allArguments (matchers : List Matcher) : List Argument :=
  matchers.map fun m => ⟨"matchers", .matcher m⟩

/-- The matcher that `All` makes of matchers. -/
def Matcher.allOf (matchers : List Matcher) : Matcher where
  name := "All"
  arguments := allArguments matchers
  references := collectReferences [] (allArguments matchers)
  body := .all (matchers.map Rule.body)

/-- All of a list accept quietly when each of them does: where one of them fails, the whole fails or
was refused before. -/
theorem Matcher.acceptsQuietly_allOf (matchers : List Matcher) (ctx : Context) :
    (allOf matchers).acceptsQuietly ctx = matchers.all fun m => m.acceptsQuietly ctx := by
  rw [Bool.eq_iff_iff, acceptsQuietly_iff, accepts, allOf, Test.run, Test.runAll_eq_ok_true,
    List.forall_mem_map, List.all_eq_true]
  exact forall₂_congr fun m _ => acceptsQuietly_iff.symm

/-- All of a list read what any of them reads. -/
theorem Matcher.mem_references_allOf {matchers : List Matcher} {r : CellRange} :
    r ∈ (allOf matchers).references ↔ ∃ m ∈ matchers, r ∈ m.references := by
  simp [allOf, mem_collectReferences, allArguments, Param.references]

/-- Good data may be replaced by one matcher made of all of it. -/
theorem CellRules.alike_allOf (rules : CellRules) :
    Alike [{ rules with goodData := [Matcher.allOf rules.goodData] }] [rules] where
  corrections := by simp
  passes ctx := by simp [goodDataPasses, Matcher.acceptsQuietly_allOf]
  reads r := by simp [ReadByGoodData, Matcher.mem_references_allOf]

/-- One matcher or more fit a signature that takes any number of them. -/
theorem typed_allArguments {s : Signature}
    (hs : s.formals = [(Formal.single "matchers" .matcher).array]) (vars : Variables)
    {matchers : List Matcher} (hne : matchers ≠ []) : s.Typed vars (allArguments matchers) := by
  have hformal : s.formal? "matchers" = some (Formal.single "matchers" .matcher).array := by
    rw [Signature.formal?, hs]
    rfl
  refine ⟨⟨?_, ?_, ?_⟩, ?_⟩
  · simp [allArguments, hformal]
  · intro slot hcount
    obtain ⟨m, -, rfl⟩ : ∃ m ∈ matchers, "matchers" = slot := by
      simpa [allArguments] using List.count_pos_iff.mp (Nat.lt_of_succ_lt hcount)
    exact hformal ▸ rfl
  · intro f hf _
    obtain rfl : f = (Formal.single "matchers" .matcher).array := List.mem_singleton.mp (hs ▸ hf)
    obtain ⟨m, hm⟩ := List.exists_mem_of_ne_nil matchers hne
    exact List.mem_map.mpr ⟨⟨"matchers", .matcher m⟩, List.mem_map_of_mem hm, rfl⟩
  · intro a ha
    obtain ⟨m, -, rfl⟩ := List.mem_map.mp ha
    exact ⟨_, hformal, .matcher m⟩

/-- Matchers bound to a slot give their bodies. -/
theorem testsOf_allArguments (matchers : List Matcher) :
    Builtin.testsOf (allArguments matchers) "matchers" = .ok (matchers.map Rule.body) := by
  have hvalues : Bound.valuesOf "matchers" (allArguments matchers) = matchers.map .matcher := by
    simp [Bound.valuesOf, allArguments, List.filter_map, Function.comp_def]
  rw [Builtin.testsOf, hvalues, List.mapM_map]
  exact List.mapM_pure

/-- On a reachable workbench `All` is built by name, whether trees are optimized or not. -/
theorem Workbench.Reachable.build_all {w : Workbench} (hw : w.Reachable) (vars : Variables)
    (optimize : Bool) {matchers : List Matcher} (hne : matchers ≠ []) :
    (w.buildRegistered vars "All" optimize (allArguments matchers)).answer =
      .ok (.matcher (.allOf matchers)) := by
  have htyped : (Registry.builtinFactory .all).signature.Typed vars (allArguments matchers) :=
    typed_allArguments rfl vars hne
  have hbody : Builtin.all.build (allArguments matchers) =
      .ok (.test (.all (matchers.map Rule.body))) := by
    rw [Builtin.build, testsOf_allArguments]
    rfl
  exact hw.buildRegistered_builtin_eq_ok.mpr ⟨_, _, htyped.validate, hbody, rfl, rfl⟩

/-! ## Sheets -/

/-- The dependencies of a built graph depend on which places are listed. -/
theorem CellGraph.mem_dependencies_congr {rows columns : Nat}
    {targets targets' : Nat → Nat → List (Nat × Nat)}
    (h : ∀ row column target, target ∈ targets row column ↔ target ∈ targets' row column)
    (d : Dependency) : d ∈ (build rows columns targets).dependencies ↔
      d ∈ (build rows columns targets').dependencies := by
  simp only [mem_dependencies_build, h]

/-- What is asked of a cell depends on the number of cells and on which cells are listed. -/
theorem CellGraph.within_eq {g g' : CellGraph} (hcount : g.nodeCount = g'.nodeCount) {id : CellId}
    {ids ids' : List CellId} (h : ∀ other, other ∈ ids ↔ other ∈ ids') :
    g.within id ids = g'.within id ids' := by
  rw [within_congr h, within, hcount, within]

namespace Sheet

/-- The sheet with lists of rules attached to a range, made anew. -/
def attached (s : Sheet) (range : CellRange) (more : List CellRules) : Sheet :=
  rebuild { s with attachments := s.attachments ++ more.map fun rules => ⟨range, rules⟩ }

/-- Rules are attached to a range that is not of another sheet. -/
theorem attach_eq_ok {s s' : Sheet} {range : CellRange} {rules : CellRules} :
    s.attach range rules = .ok s' ↔
      range.sheet?.all (· = s.name) ∧ s.attached range [rules] = s' := by
  unfold attach
  split
  · next h => simp [h, attached]
  · next h => simp [h]

/-- Rules attached after others were, whatever was recorded meanwhile, are attached with them. -/
theorem attached_attached (s : Sheet) (range : CellRange) (rules more : CellRules)
    (verdicts : List (CellId × Verdict)) :
    ((s.attached range [rules]).store verdicts).attached range [more] =
      s.attached range [rules, more] := by
  simp only [attached, rebuild, store, List.append_assoc, List.map_cons, List.map_nil]
  rfl

/-- The rules on a cell after more were attached: the cells of the range get them last. -/
theorem rulesFor_attached (s : Sheet) (range : CellRange) (more : List CellRules)
    (cell : CellAddress) : (s.attached range more).rulesFor cell =
      s.rulesFor cell ++ if range.contains cell then more else [] := by
  simp only [rulesFor, attached, rebuild, List.filter_append, List.map_append, List.filter_map,
    Function.comp_def]
  split <;> simp [*, Function.comp_def]

/-- Sheets that differ in nothing but the order of their dependencies and in rules that are
alike. -/
structure Alike (s s' : Sheet) : Prop where
  name : s.name = s'.name
  columns : s.columns = s'.columns
  rows : s.rows = s'.rows
  ledger : s.ledger = s'.ledger
  rules : ∀ cell, CellRules.Alike (s.rulesFor cell) (s'.rulesFor cell)
  graphRows : s.graph.rows = s'.graph.rows
  graphColumns : s.graph.columns = s'.graph.columns
  dependencies : ∀ d, d ∈ s.graph.dependencies ↔ d ∈ s'.graph.dependencies

/-- A sheet to which alike rules are attached. -/
theorem alike_attached (s : Sheet) (range : CellRange) {more more' : List CellRules}
    (h : CellRules.Alike more more') :
    (s.attached range more).Alike (s.attached range more') := by
  have hrules (cell : CellAddress) : CellRules.Alike ((s.attached range more).rulesFor cell)
      ((s.attached range more').rulesFor cell) := by
    rw [rulesFor_attached, rulesFor_attached]
    split
    · exact h.append_left _
    · exact .of_flattened rfl rfl
  have htargets (row column : Nat) (target : Nat × Nat) :
      target ∈ (s.attached range more).targetsOf row column ↔
        target ∈ (s.attached range more').targetsOf row column := by
    simp only [targetsOf, List.mem_map, List.mem_filter, (hrules _).mem_references_iff]
    rfl
  exact ⟨rfl, rfl, rfl, rfl, hrules, rfl, rfl, CellGraph.mem_dependencies_congr htargets⟩

namespace Alike

variable {s s' : Sheet}

/-- Alike sheets stay alike when the same verdicts are recorded. -/
theorem store (h : s.Alike s') (verdicts : List (CellId × Verdict)) :
    (s.store verdicts).Alike (s'.store verdicts) where
  name := h.name
  columns := h.columns
  rows := h.rows
  ledger := by rw [Sheet.store, h.ledger, Sheet.store]
  rules := h.rules
  graphRows := h.graphRows
  graphColumns := h.graphColumns
  dependencies := h.dependencies

/-- Alike sheets have the same texts. -/
theorem text?_eq (h : s.Alike s') (row column : Nat) :
    s.text? row column = s'.text? row column := by
  rw [text?, h.rows, text?]

/-- Alike sheets have the same texts, and refuse the same places. -/
theorem valueAt_eq (h : s.Alike s') (row column : Nat) :
    s.valueAt row column = s'.valueAt row column := by
  rw [valueAt, h.text?_eq, outside, h.name, valueAt, outside]

/-- Alike sheets have the same verdicts, and refuse the same places. -/
theorem verdictAt_eq (h : s.Alike s') (row column : Nat) :
    s.verdictAt row column = s'.verdictAt row column := by
  have hcell : s.cellId row column = s'.cellId row column :=
    if_congr (by rw [rowCount, h.rows, h.columns, rowCount]) (by rw [h.columns])
      (by rw [outside, h.name, outside])
  rw [verdictAt, hcell, h.ledger, verdictAt]

/-- The cells of alike sheets are at the same addresses. -/
theorem addressOfId_eq (h : s.Alike s') (id : CellId) : s.addressOfId id = s'.addressOfId id := by
  simp only [addressOfId, CellGraph.place, addressOf, h.graphColumns, h.name]

/-- Alike sheets have the same cells. -/
theorem cellIds_eq (h : s.Alike s') : s.cellIds = s'.cellIds := by
  rw [cellIds, rowCount, h.rows, h.columns, cellIds, rowCount]

/-- Alike sheets have as many cells in their graphs. -/
theorem nodeCount_eq (h : s.Alike s') : s.graph.nodeCount = s'.graph.nodeCount := by
  rw [CellGraph.nodeCount, h.graphRows, h.graphColumns, CellGraph.nodeCount]

/-- The cells of alike sheets have the same dependents. -/
theorem dependents_eq (h : s.Alike s') (id : CellId) :
    s.graph.dependents id = s'.graph.dependents id :=
  CellGraph.within_eq h.nodeCount_eq fun other => by
    rw [CellGraph.mem_readersOf, h.dependencies, CellGraph.mem_readersOf]

/-- The cells of alike sheets have the same precedents. -/
theorem precedents_eq (h : s.Alike s') (id : CellId) :
    s.graph.precedents id = s'.graph.precedents id :=
  CellGraph.within_eq h.nodeCount_eq fun other => by
    rw [CellGraph.mem_sourcesOf, h.dependencies, CellGraph.mem_sourcesOf]

end Alike

/-- Sheets that show the same texts, verdicts, dependents and precedents of every cell. -/
structure ShownAlike (s s' : Sheet) : Prop where
  name : s.name = s'.name
  texts : ∀ row column, s.valueAt row column = s'.valueAt row column
  verdicts : ∀ row column, s.verdictAt row column = s'.verdictAt row column
  dependents : ∀ id, s.graph.dependents id = s'.graph.dependents id
  precedents : ∀ id, s.graph.precedents id = s'.graph.precedents id

/-- Alike sheets show alike. -/
theorem Alike.shownAlike {s s' : Sheet} (h : s.Alike s') : s.ShownAlike s' :=
  ⟨h.name, h.valueAt_eq, h.verdictAt_eq, h.dependents_eq, h.precedents_eq⟩

end Sheet

/-! ## Workbooks -/

namespace Workbook

/-- Two workbooks that show the same texts, verdicts, dependents and precedents of every cell of
every sheet, and the same last report. -/
structure ShowsAlike (b b' : Workbook) : Prop extends b.Agrees b' where
  dependents : ∀ name id, (b.sheet? name).map (·.graph.dependents id) =
    (b'.sheet? name).map (·.graph.dependents id)
  precedents : ∀ name id, (b.sheet? name).map (·.graph.precedents id) =
    (b'.sheet? name).map (·.graph.precedents id)
  lastReport : b.lastReport = b'.lastReport

/-- Two requests that were answered with the same report and left workbooks that show alike. -/
structure AnsweredAlike (r r' : Reply Report) : Prop where
  answered : ∃ report, r.answer = .ok report ∧ r'.answer = .ok report
  book : r.book.ShowsAlike r'.book

variable {b : Workbook} {vars : Variables} {s t t' : Sheet}

/-- The texts of a workbook with a sheet in place of another are those with one of the same rows. -/
theorem cellText_putSheet_of_rows_eq (b : Workbook) (hname : t.name = t'.name)
    (hrows : t.rows = t'.rows) : (b.putSheet t).cellText = (b.putSheet t').cellText := by
  funext a
  simp only [cellText, sheet?_putSheet, hname]
  by_cases ha : a.sheet = t'.name
  · cases hfound : b.sheet? a.sheet with
    | none => simp only [ha, ↓reduceIte, Option.map_none]
    | some u => simp only [ha, ↓reduceIte, Option.map_some, Sheet.rowCount, Sheet.text?, hrows]
  · simp only [ha, ↓reduceIte]

/-- A cell gets the same verdict in alike sheets. -/
theorem probeCell_putSheet_of_alike (h : t.Alike t') (id : CellId) :
    (b.putSheet t).probeCell vars none t id = (b.putSheet t').probeCell vars none t' id := by
  have hcells : (b.putSheet t).overlaid none = (b.putSheet t').overlaid none :=
    cellText_putSheet_of_rows_eq b h.name h.rows
  simp only [probeCell, hcells, h.addressOfId_eq]
  exact (h.rules _).probe_eq _

/-- Workbooks show alike when a sheet is replaced by ones that show alike and the last reports are
the same. -/
theorem showsAlike_of_putSheet {c c' : Workbook} (hs : b.sheet? s.name = some s)
    (hname : t.name = s.name) (h : t.ShownAlike t') (hc : c.sheets = (b.putSheet t).sheets)
    (hc' : c'.sheets = (b.putSheet t').sheets) (hreport : c.lastReport = c'.lastReport) :
    c.ShowsAlike c' := by
  have hname' : t'.name = s.name := h.name.symm.trans hname
  have hfound (name : String) : c.sheet? name = (b.putSheet t).sheet? name := by
    rw [sheet?, hc, sheet?]
  have hfound' (name : String) : c'.sheet? name = (b.putSheet t').sheet? name := by
    rw [sheet?, hc', sheet?]
  constructor
  case toAgrees =>
    constructor
    case texts =>
      intro name row column
      rw [valueAt_of_putSheet hc hs hname, valueAt_of_putSheet hc' hs hname', h.texts]
    case verdicts =>
      intro name row column
      rw [verdictAt_of_putSheet hc hs hname, verdictAt_of_putSheet hc' hs hname', h.verdicts]
  case dependents =>
    intro name id
    rw [hfound, hfound', sheet?_putSheet, sheet?_putSheet, hname, hname']
    split
    · simp [Function.comp_def, h.dependents]
    · rfl
  case precedents =>
    intro name id
    rw [hfound, hfound', sheet?_putSheet, sheet?_putSheet, hname, hname']
    split
    · simp [Function.comp_def, h.precedents]
    · rfl
  case lastReport => exact hreport

/-- The reply to a check of all of a sheet that was put in place of another. -/
def checkedWith (b : Workbook) (vars : Variables) (t : Sheet) : Reply Report :=
  (b.putSheet t).checkCells vars none t t.cellIds 0

/-- The verdicts of all cells of a sheet that was put in place of another. -/
def allVerdicts (b : Workbook) (vars : Variables) (t : Sheet) : List (CellId × Verdict) :=
  t.cellIds.map fun id => (id, (b.putSheet t).probeCell vars none t id)

/-- A check of all of a sheet does not depend on the sheet before it nor on the last report. -/
theorem Replaces.checkedWith_eq {c : Workbook} (h : b.Replaces t c) (hname : t.name = t'.name)
    (vars : Variables) : c.checkedWith vars t' = b.checkedWith vars t' := by
  obtain ⟨hsheets, hconfig⟩ := h.putSheet hname
  have hput : c.putSheet t' = { b.putSheet t' with lastReport := c.lastReport } :=
    Workbook.mk.injEq .. ▸ ⟨hsheets, hconfig, rfl⟩
  rw [checkedWith, hput]
  rfl

/-- A check of all of a sheet leaves it with its verdicts in place of the one before. -/
theorem sheets_checkedWith (b : Workbook) (vars : Variables) (t : Sheet) :
    (b.checkedWith vars t).book.sheets = (b.putSheet (t.store (b.allVerdicts vars t))).sheets := by
  have hput : (b.putSheet t).putSheet (t.store (b.allVerdicts vars t)) =
      b.putSheet (t.store (b.allVerdicts vars t)) := putSheet_putSheet b rfl
  exact (congrArg sheets hput :)

/-- What is found after a check of all of a sheet that was put in place of another. -/
theorem sheet?_checkedWith (b : Workbook) (vars : Variables) (t : Sheet) (name : String) :
    (b.checkedWith vars t).book.sheet? name =
      if name = t.name then (b.sheet? name).map fun _ => t.store (b.allVerdicts vars t)
      else b.sheet? name := by
  rw [sheet?, sheets_checkedWith]
  exact sheet?_putSheet _ name

/-- The sheet that was put is found with its verdicts. -/
theorem sheet?_checkedWith_self (hs : b.sheet? s.name = some s) (hname : t.name = s.name) :
    (b.checkedWith vars t).book.sheet? s.name = some (t.store (b.allVerdicts vars t)) := by
  rw [sheet?_checkedWith, if_pos hname.symm, hs, Option.map_some]

/-- All cells get the same verdicts in alike sheets. -/
theorem allVerdicts_eq_of_alike (h : t.Alike t') :
    b.allVerdicts vars t = b.allVerdicts vars t' := by
  rw [allVerdicts, h.cellIds_eq, allVerdicts]
  exact List.map_congr_left fun id _ => by rw [probeCell_putSheet_of_alike h]

/-- Checks of all cells of alike sheets have the same report. -/
theorem checkReport_eq_of_alike (h : t.Alike t') :
    (b.putSheet t).checkReport vars none t t.cellIds 0 =
      (b.putSheet t').checkReport vars none t' t'.cellIds 0 := by
  simp only [checkReport, h.cellIds_eq, h.addressOfId_eq, probeCell_putSheet_of_alike h]

/-- A check of all of a sheet is answered alike when one is put whose report is the same and which
shows alike with its verdicts. -/
theorem answeredAlike_of_shownAlike (hs : b.sheet? s.name = some s) (hname : t.name = s.name)
    (hreport : (b.putSheet t).checkReport vars none t t.cellIds 0 =
      (b.putSheet t').checkReport vars none t' t'.cellIds 0)
    (h : (t.store (b.allVerdicts vars t)).ShownAlike (t'.store (b.allVerdicts vars t'))) :
    AnsweredAlike (b.checkedWith vars t) (b.checkedWith vars t') := by
  have hanswer (u : Sheet) : (b.checkedWith vars u).answer =
      .ok ((b.putSheet u).checkReport vars none u u.cellIds 0) := answer_checkCells ..
  have hlast (u : Sheet) : (b.checkedWith vars u).book.lastReport =
      some ((b.putSheet u).checkReport vars none u u.cellIds 0) :=
    congrArg some (Except.ok.inj (hanswer u))
  refine ⟨⟨_, hanswer t, hreport ▸ hanswer t'⟩, ?_⟩
  have hname : (t.store (b.allVerdicts vars t)).name = s.name := hname
  refine showsAlike_of_putSheet hs hname h (b.sheets_checkedWith vars t)
    (b.sheets_checkedWith vars t') ?_
  rw [hlast, hlast, hreport]

/-- A check of all of a sheet is answered alike when an alike one is put. -/
theorem answeredAlike_checkedWith (hs : b.sheet? s.name = some s) (hname : t.name = s.name)
    (h : t.Alike t') : AnsweredAlike (b.checkedWith vars t) (b.checkedWith vars t') := by
  have hstored : (t.store (b.allVerdicts vars t)).Alike (t'.store (b.allVerdicts vars t')) :=
    allVerdicts_eq_of_alike h ▸ h.store _
  exact answeredAlike_of_shownAlike hs hname (checkReport_eq_of_alike h) hstored.shownAlike

/-- A change of a sheet that is not refused puts the changed one and checks all of it. -/
theorem reshape_eq (hs : b.sheet? s.name = some s) {change : Sheet → Except SheetError Sheet}
    (h : change s = .ok t) (hname : t.name = s.name) :
    b.reshape vars s.name change = b.checkedWith vars t := by
  simp only [reshape, edit, sheet_eq_ok.mpr hs, goOn, h]
  exact recomputeAll_putSheet hs hname

/-- After one change of a sheet another puts the sheet that was changed twice and checks all of
it. -/
theorem reshape_reshape_eq {change change' : Sheet → Except SheetError Sheet}
    (hs : b.sheet? s.name = some s) (h : change s = .ok t) (hname : t.name = s.name)
    (h' : change' (t.store (b.allVerdicts vars t)) = .ok t') (hname' : t'.name = s.name)
    (vars' : Variables) :
    (b.reshape vars s.name change).book.reshape vars' s.name change' = b.checkedWith vars' t' := by
  let u := t.store (b.allVerdicts vars t)
  let c := (b.checkedWith vars t).book
  have hreplaces : b.Replaces u c := ⟨b.sheets_checkedWith vars t, rfl⟩
  have huname : u.name = s.name := hname
  have hfound : c.sheet? u.name = some u := huname ▸ sheet?_checkedWith_self hs hname
  rw [reshape_eq hs h hname]
  calc c.reshape vars' s.name change'
      = c.checkedWith vars' t' := huname ▸ reshape_eq hfound h' (hname'.trans huname.symm)
    _ = b.checkedWith vars' t' := hreplaces.checkedWith_eq (huname.trans hname'.symm) vars'

/-- Rules are attached by putting the sheet with them and checking all of it. -/
theorem attach_eq (hs : b.sheet? s.name = some s) {range : CellRange}
    (hrange : range.sheet?.all (· = s.name)) (rules : CellRules) :
    b.attach vars s.name range rules = b.checkedWith vars (s.attached range [rules]) :=
  reshape_eq hs (Sheet.attach_eq_ok.mpr ⟨hrange, rfl⟩) rfl

/-- Rules are attached in turn by putting the sheet with both and checking all of it. -/
theorem attach_attach_eq (hs : b.sheet? s.name = some s) {range : CellRange}
    (hrange : range.sheet?.all (· = s.name)) (rules more : CellRules) (vars' : Variables) :
    (b.attach vars s.name range rules).book.attach vars' s.name range more =
      b.checkedWith vars' (s.attached range [rules, more]) := by
  let t := s.attached range [rules]
  have hattach : s.attach range rules = .ok t := Sheet.attach_eq_ok.mpr ⟨hrange, rfl⟩
  have hagain : (t.store (b.allVerdicts vars t)).attach range more =
      .ok (s.attached range [rules, more]) :=
    Sheet.attach_eq_ok.mpr ⟨hrange, s.attached_attached ..⟩
  have hname (more : List CellRules) : (s.attached range more).name = s.name := rfl
  exact reshape_reshape_eq hs hattach (hname _) hagain (hname _) vars'

/-- A range to which rules may be attached is of a sheet of the workbook. -/
theorem exists_of_attach {name : String} {range : CellRange} {rules : CellRules}
    (h : (b.attach vars name range rules).refusal? = none) :
    ∃ s, b.sheet? s.name = some s ∧ s.name = name ∧ range.sheet?.all (· = s.name) := by
  have hfollows : (b.attach vars name range rules).Follows b
      (b.sheet name >>= fun s => s.attach range rules) :=
    follows_reshape fun _ _ => Sheet.remade_of_attach
  rw [hfollows.refusal?_eq] at h
  obtain ⟨t, hfound⟩ := exists_eq_ok_of_failure? h
  obtain ⟨s, hs, ht⟩ := bind_eq_ok.mp hfound
  have hs := sheet_eq_ok.mp hs
  obtain rfl := name_of_sheet? hs
  exact ⟨s, hs, rfl, (Sheet.attach_eq_ok.mp ht).1⟩

/-- Of the rules on a range only the flattened lists matter. -/
structure Flattens (w : Workbench) (b : Workbook) (vars : Variables) (name : String)
    (range : CellRange) (rules : CellRules) : Prop where
  /-- Rules attached in turn show as the rules of both attached at once. -/
  appended : ∀ vars' more,
    AnsweredAlike ((b.attach vars name range rules).book.attach vars' name range more)
      (b.attach vars' name range (rules.append more))
  /-- Good data shows as the one matcher that the registry makes of it, also where it fails. -/
  conjoined : rules.goodData ≠ [] → ∀ vars' optimize, ∃ m,
    (w.buildRegistered vars' "All" optimize (allArguments rules.goodData)).answer =
        .ok (.matcher m) ∧
      AnsweredAlike (b.attach vars name range { rules with goodData := [m] })
        (b.attach vars name range rules)

/-- Wherever rules may be attached, only their flattened lists matter. -/
theorem flattens_attach {w : Workbench} (hw : w.Reachable) {name : String} {range : CellRange}
    {rules : CellRules} (haccepted : (b.attach vars name range rules).refusal? = none) :
    Flattens w b vars name range rules := by
  obtain ⟨s, hs, rfl, hrange⟩ := exists_of_attach haccepted
  constructor
  case appended =>
    intro vars' more
    rw [attach_attach_eq hs hrange, attach_eq hs hrange]
    exact answeredAlike_checkedWith hs rfl (s.alike_attached range (CellRules.alike_append ..))
  case conjoined =>
    intro hne vars' optimize
    refine ⟨.allOf rules.goodData, hw.build_all vars' optimize hne, ?_⟩
    rw [attach_eq hs hrange, attach_eq hs hrange]
    exact answeredAlike_checkedWith hs rfl (s.alike_attached range rules.alike_allOf)

/-- A matcher that reads a sheet that is not there. -/
def readsMissing : Matcher where
  name := "Exact"
  arguments := [⟨"input", .cell (.within "Gone" none none)⟩, ⟨"against", .constant (.string "")⟩]
  references := [.within "Gone" none none]
  body := .equal (.cell (.within "Gone" none none)) (.constant (.string ""))

/-- A matcher that fails before another one, on cells that have rules already: every cell is found
invalid, with the matchers apart, in turn or as one. -/
theorem flattens_attach_pairBook :
    let rules : CellRules := ⟨[readsMissing, sameAsFirst], []⟩
    Flattens (.new .withBuiltins) pairBook .empty "S" .any rules ∧
      (pairBook.attach .empty "S" .any rules).refusal? = none ∧
      (pairBook.attach .empty "S" .any rules).book.verdictAt "S" 0 0 = .ok (some .invalid) :=
  ⟨flattens_attach ⟨[], rfl⟩ rfl, rfl, rfl⟩

end Workbook

end GridAudit
