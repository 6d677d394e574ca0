import Mathlib.Logic.Relation
import GridAudit.Proofs.Stratified

/-!
# A rule is what its factory declares

Whatever the body of a factory, the rule it builds has its kind, its name and the arguments as they
were validated. The addresses it lists are those of its arguments and the cells at the leaves of the
tree, of the trees of the factories called there, and so on: none is lost when the rule of a call is
taken over under another name, and none comes from elsewhere. Each is listed once.
-/

namespace GridAudit

/-- Leaving out repeats leaves none. -/
theorem CellRange.nodup_distinct (rs : List CellRange) : (distinct rs).Nodup := by
  refine List.foldlRecOn (motive := List.Nodup) rs _ List.nodup_nil fun kept hkept r _ => ?_
  split
  · exact hkept
  · next hnew =>
    simpa [List.nodup_append, hkept] using fun a ha => ne_of_mem_of_not_mem ha (by simpa using hnew)

/-! ## The addresses of arguments -/

/-- An address is one of those that an argument in a list may read. -/
def Cited (arguments : List Argument) (r : CellRange) : Prop :=
  ∃ a ∈ arguments, r ∈ a.value.references

/-- Of arguments in two lists either may read an address. -/
theorem cited_append {arguments more : List Argument} {r : CellRange} :
    Cited (arguments ++ more) r ↔ Cited arguments r ∨ Cited more r := by
  simp only [Cited, List.mem_append, or_and_right, exists_or]

/-- A lone argument may read its own addresses. -/
theorem cited_singleton {a : Argument} {r : CellRange} : Cited [a] r ↔ r ∈ a.value.references := by
  simp [Cited]

namespace Param

variable {vars : Variables} {p q : Param} {type : ValueType} {r : CellRange}

/-- An argument that serves as a replacer reads the same addresses. -/
theorem mem_references_asReplacer : r ∈ p.asReplacer.references ↔ r ∈ p.references := by
  cases p with
  | replacer => rfl
  | constant | «variable» | cell | matcher =>
    simp [asReplacer, Replacer.verbatim, mem_collectReferences]

/-- A converted argument reads the same addresses. -/
theorem mem_references_of_convert (h : p.convert vars type = some q) :
    r ∈ q.references ↔ r ∈ p.references := by
  by_cases hplain : type.isPlain
  · rw [convert_of_isPlain hplain] at h
    cases p with
    | constant value =>
      obtain ⟨c, -, rfl⟩ := Option.map_eq_some_iff.mp h
      rfl
    | «variable» v =>
      obtain ⟨-, h⟩ := Option.ite_none_right_eq_some.mp h
      obtain rfl := Option.some.inj h
      rfl
    | cell target =>
      obtain rfl := Option.some.inj h
      rfl
    | matcher | replacer => contradiction
  · cases type with
    | string | int | real | char => contradiction
    | matcher =>
      obtain ⟨rule, rfl⟩ := isSome_convert_matcher.mp (Option.isSome_of_eq_some h)
      obtain rfl := Option.some.inj h
      rfl
    | replacer =>
      obtain rfl := Option.some.inj h
      exact mem_references_asReplacer

end Param

/-- Valid arguments read the addresses of those that were given. -/
theorem Signature.cited_iff_of_validate {s : Signature} {vars : Variables}
    {arguments valid : List Argument} (h : s.validate vars arguments = .ok valid) {r : CellRange} :
    Cited valid r ↔ Cited arguments r := by
  have hcoerced := coerceAll_eq_ok_iff.mp (coerceAll_of_validate h)
  clear h
  induction hcoerced with
  | nil => rfl
  | @cons a b rest valid hfirst _ ih =>
    obtain ⟨type, value, hvalue, rfl⟩ := exists_convert_of_coerce hfirst
    have hsplit (c : Argument) (more : List Argument) :
        Cited (c :: more) r ↔ r ∈ c.value.references ∨ Cited more r := by
      rw [← List.singleton_append, cited_append, cited_singleton]
    rw [hsplit, hsplit, Param.mem_references_of_convert hvalue]
    exact or_congr_right ih

/-! ## The cells of trees -/

/-- A cell at a leaf of the tree of a factory. -/
def FactoryOf.HasLeaf (f : Factory) (target : CellRange) : Prop :=
  ∃ root, f.tree? = some root ∧ ∃ slot, .cell slot target ∈ root.nodes

/-- A cell at a leaf of the tree of a factory, or of one that it calls, directly or through
others. -/
def FactoryOf.Names (f : Factory) (target : CellRange) : Prop :=
  ∃ g : Factory, Relation.ReflTransGen FactoryOf.Calls f g ∧ g.HasLeaf target

namespace Node

/-- A cell at a leaf of a node's tree, or one that a factory called there names. -/
def Names (n : Node) (target : CellRange) : Prop :=
  (∃ slot, .cell slot target ∈ n.nodes) ∨
    ∃ m ∈ n.nodes, ∃ g, m.factory? = some g ∧ g.Names target

/-- Several nodes name what any of them does. -/
def NamesAny (nodes : List Node) (target : CellRange) : Prop := ∃ n ∈ nodes, n.Names target

variable {target : CellRange}

/-- A node of a list of trees is a node of one of them. -/
theorem mem_nodesOf_iff {nodes : List Node} {m : Node} :
    m ∈ nodesOf nodes ↔ ∃ n ∈ nodes, m ∈ n.nodes := by
  induction nodes with
  | nil => simp [nodesOf]
  | cons n rest ih => simp [nodesOf, ih]

/-- A call names what its factory and its children do. -/
theorem names_call {slot : String} {factory : Factory} {children : List Node} :
    (call slot factory children).Names target ↔
      factory.Names target ∨ NamesAny children target := by
  simp only [Names, NamesAny, nodes, List.mem_cons, reduceCtorEq, false_or, mem_nodesOf_iff,
    exists_eq_or_imp, factory?, Option.some.injEq, exists_eq_left']
  grind

end Node

/-- A factory names what the root of its tree does. -/
theorem FactoryOf.names_iff {f : Factory} {target : CellRange} :
    f.Names target ↔ ∃ root, f.tree? = some root ∧ root.Names target := by
  constructor
  · rintro ⟨g, hcalls, hleaf⟩
    rcases hcalls.cases_head with rfl | ⟨h, ⟨root, hroot, m, hm, hh⟩, hrest⟩
    · obtain ⟨root, hroot, slot, hcell⟩ := hleaf
      exact ⟨root, hroot, .inl ⟨slot, hcell⟩⟩
    · exact ⟨root, hroot, .inr ⟨m, hm, h, hh, g, hrest, hleaf⟩⟩
  · rintro ⟨root, hroot, ⟨slot, hcell⟩ | ⟨m, hm, h, hh, g, hcalls, hleaf⟩⟩
    · exact ⟨f, .refl, root, hroot, slot, hcell⟩
    · exact ⟨g, .head ⟨root, hroot, m, hm, hh⟩ hcalls, hleaf⟩

/-! ## The addresses of rules -/

/-- A native body reads the addresses of its arguments. -/
theorem Signature.mem_references_of_buildNative {s : Signature} {env : Environment} {id : String}
    {arguments : List Argument} {i : Instance} (h : s.buildNative env id arguments = .ok i)
    {r : CellRange} : r ∈ i.references ↔ Cited arguments r := by
  obtain ⟨native, body, -, -, -, rfl⟩ := buildNative_eq_ok.mp h
  have hreferences : (body.toInstance s.name arguments).references =
      collectReferences [] arguments := by cases body <;> rfl
  rw [hreferences, mem_collectReferences]
  simp [Cited]

/-- A rule under another name reads its addresses and those of its new arguments. -/
theorem Instance.mem_references_relabel {i : Instance} {name : String} {arguments : List Argument}
    {r : CellRange} :
    r ∈ (i.relabel name arguments).references ↔ r ∈ i.references ∨ Cited arguments r := by
  cases i <;> exact mem_collectReferences

/-- A rule as an argument reads its addresses. -/
@[simp] theorem Instance.references_toParam (i : Instance) :
    i.toParam.references = i.references := by
  cases i <;> rfl

namespace Node

variable {env : Environment}

mutual

/-- What a node yields reads the cells that the node names, and besides only what the arguments
read. -/
theorem cited_of_evaluate (n : Node) {arguments yielded : List Argument}
    (h : n.evaluate env false arguments = .ok yielded) (r : CellRange) :
    (n.Names r → Cited yielded r) ∧ (Cited yielded r → n.Names r ∨ Cited arguments r) := by
  cases n with
  | constant slot value =>
    obtain rfl := Except.ok.inj h
    simp [Names, nodes, factory?, cited_singleton, Param.references]
  | cell slot target =>
    obtain rfl := Except.ok.inj h
    simp +contextual [Names, nodes, factory?, cited_singleton, Param.references]
  | «variable» slot argument =>
    obtain rfl := Except.ok.inj h
    refine ⟨by simp [Names, nodes, factory?], ?_⟩
    rintro ⟨b, hb, hr⟩
    obtain ⟨p, hp, rfl⟩ := List.mem_map.mp hb
    obtain ⟨a, ha, rfl⟩ := Bound.exists_of_mem_valuesOf hp
    exact .inr ⟨a, ha, hr⟩
  | call slot factory children =>
    obtain ⟨bound, rule, hbound, hrule, rfl⟩ := evaluate_call_eq_ok.mp h
    obtain ⟨hnamed, hcited⟩ := cited_of_evaluateAll children hbound r
    have hreferences := mem_references_of_instantiate factory hrule r
    rw [names_call, cited_singleton, Instance.references_toParam, hreferences]
    exact ⟨Or.imp_right hnamed, fun hr => or_assoc.mpr (hr.imp_right hcited)⟩

/-- What several nodes yield reads the cells that they name, and besides only what the arguments
read. -/
theorem cited_of_evaluateAll (nodes : List Node) {arguments yielded : List Argument}
    (h : evaluateAll env false arguments nodes = .ok yielded) (r : CellRange) :
    (NamesAny nodes r → Cited yielded r) ∧
      (Cited yielded r → NamesAny nodes r ∨ Cited arguments r) := by
  cases nodes with
  | nil =>
    obtain rfl := Except.ok.inj h
    simp [NamesAny, Cited]
  | cons n rest =>
    obtain ⟨first, more, hfirst, hmore, rfl⟩ := bind_bind_eq_ok.mp h
    obtain ⟨hnamed, hcited⟩ := cited_of_evaluate n hfirst r
    obtain ⟨hnamed', hcited'⟩ := cited_of_evaluateAll rest hmore r
    rw [cited_append, NamesAny, List.exists_mem_cons_iff]
    refine ⟨Or.imp hnamed hnamed', ?_⟩
    rintro (hr | hr)
    · exact (hcited hr).imp_left .inl
    · exact (hcited' hr).imp_left .inr

/-- A rule reads the cells that its factory names and the addresses of its arguments. -/
theorem mem_references_of_instantiate (f : FactoryOf Node) {arguments : List Argument}
    {i : Instance} (h : instantiate env false f arguments = .ok i) (r : CellRange) :
    r ∈ i.references ↔ f.Names r ∨ Cited arguments r := by
  obtain ⟨signature, body⟩ := f
  obtain ⟨valid, hvalid, h⟩ := bind_eq_ok.mp h
  rw [mem_references_of_build body h, Signature.cited_iff_of_validate hvalid]

/-- The rule of a body reads the cells that the body names and the addresses of its arguments. -/
theorem mem_references_of_build (body : FactoryBody Node) {signature : Signature}
    {arguments : List Argument} {i : Instance}
    (h : build env false signature arguments body = .ok i) (r : CellRange) :
    r ∈ i.references ↔ (FactoryOf.mk signature body).Names r ∨ Cited arguments r := by
  cases body with
  | native id =>
    rw [Signature.mem_references_of_buildNative h, FactoryOf.names_iff]
    simp [FactoryOf.tree?]
  | tree root =>
    obtain ⟨yielded, hyielded, h⟩ := bind_eq_ok.mp h
    obtain ⟨hnamed, hcited⟩ := cited_of_evaluate root hyielded r
    obtain ⟨value, rule, rfl, hconvert, -, rfl⟩ := Signature.adopt_eq_ok.mp h
    have hrule := Param.mem_references_of_convert (r := r) hconvert
    rw [Instance.references_toParam] at hrule
    rw [cited_singleton] at hnamed hcited
    have hnames : (FactoryOf.mk signature (.tree root)).Names r ↔ root.Names r := by
      rw [FactoryOf.names_iff]
      simp [FactoryOf.tree?]
    rw [Instance.mem_references_relabel, hrule, hnames]
    exact ⟨fun hr => hr.elim hcited .inr, Or.imp_left hnamed⟩

end

end Node

/-! ## What factories make -/

/-- A rule that is what a factory declares, made of valid arguments. -/
structure FactoryOf.Makes (f : Factory) (valid : List Argument) (i : Instance) : Prop where
  kind : i.kind = f.output
  name : i.name = f.name
  arguments : i.arguments = valid
  /-- No address is listed twice. -/
  distinct : i.references.Nodup
  /-- The addresses listed are those of the arguments and the cells of the trees. -/
  references : ∀ r, r ∈ i.references ↔
    (∃ a ∈ valid, r ∈ a.value.references) ∨ f.Names r

namespace Instance

/-- The rule of a body has the name and arguments it was given and lists no address twice. -/
theorem labelled_toInstance (body : RuleBody) (name : String) (arguments : List Argument) :
    let i := body.toInstance name arguments
    i.name = name ∧ i.arguments = arguments ∧ i.references.Nodup := by
  cases body <;> exact ⟨rfl, rfl, CellRange.nodup_distinct _⟩

/-- A relabelled rule has the name and arguments it was given and lists no address twice. -/
theorem labelled_relabel (i : Instance) (name : String) (arguments : List Argument) :
    let i' := i.relabel name arguments
    i'.name = name ∧ i'.arguments = arguments ∧ i'.references.Nodup := by
  cases i <;> exact ⟨rfl, rfl, CellRange.nodup_distinct _⟩

end Instance

/-- What a factory builds is what it declares. -/
theorem FactoryOf.exists_makes_of_instantiate {f : Factory} {env : Environment}
    {arguments : List Argument} {i : Instance} (h : f.instantiate env false arguments = .ok i) :
    ∃ valid, f.signature.validate env.vars arguments = .ok valid ∧ f.Makes valid i := by
  have hkind : i.kind = f.output := Node.kind_of_instantiate h
  have hreferences := Node.mem_references_of_instantiate f h
  obtain ⟨signature, body⟩ := f
  obtain ⟨valid, hvalid, h⟩ := bind_eq_ok.mp h
  have hlabelled : i.name = signature.name ∧ i.arguments = valid ∧ i.references.Nodup := by
    cases body with
    | native id =>
      obtain ⟨_, body, -, -, -, rfl⟩ := Signature.buildNative_eq_ok.mp h
      exact Instance.labelled_toInstance body signature.name valid
    | tree root =>
      obtain ⟨yielded, -, h⟩ := bind_eq_ok.mp h
      obtain ⟨_, rule, -, -, -, rfl⟩ := Signature.adopt_eq_ok.mp h
      exact rule.labelled_relabel signature.name valid
  refine ⟨valid, hvalid, hkind, hlabelled.1, hlabelled.2.1, hlabelled.2.2, fun r => ?_⟩
  rw [hreferences, ← Signature.cited_iff_of_validate hvalid, or_comm, Cited]

namespace Workbench

variable {w : Workbench}

/-- What a workbench builds, with whatever rules were kept on it, is what the factory declares: be
it registered or only put down, the rule has its kind and name and the valid arguments in order,
and lists the addresses of these and the cells of all trees below, each once. -/
theorem Reachable.exists_makes (hw : w.Reachable) {vars : Variables} {optimize : Bool}
    {arguments : List Argument} {i : Instance} :
    (∀ name, (w.buildRegistered vars name optimize arguments).answer = .ok i →
      ∃ f valid, w.registry.factory? name = some f ∧
        f.signature.validate vars arguments = .ok valid ∧ f.Makes valid i) ∧
    ∀ handle f, w.pending? handle = some f →
      (w.buildPending vars handle f optimize arguments).answer = .ok i →
      ∃ valid, f.signature.validate vars arguments = .ok valid ∧ f.Makes valid i := by
  constructor
  · intro name h
    have hanswer := h
    rw [hw.sound.answer_buildRegistered, Registry.instantiate_eq_ok] at hanswer
    obtain ⟨f, hf, -⟩ := hanswer
    have hbuilt := (hw.sound.buildRegistered_eq_ok hf).mp h
    obtain ⟨valid, hvalid, hmakes⟩ := FactoryOf.exists_makes_of_instantiate hbuilt
    exact ⟨f, valid, hf, hvalid, hmakes⟩
  · intro handle f hf h
    have hown : w.trees.Own w.registry (.pending handle) f := fun root hroot =>
      ⟨by simp [trees, hf, hroot], hw.sound.pending handle f hf root hroot⟩
    have hanswer := (hw.sound.build hown vars optimize arguments).1
    exact FactoryOf.exists_makes_of_instantiate (hanswer.symm.trans h)

/-- A factory of matchers that accept cells with a given text. -/
def holdsDefinition : FactoryDefinition where
  name := "Holds"
  description := ""
  output := .matcher
  formals := [.single "text" .string]
  body := .tree (.call "root" "Exact" [.cell "input" "*:*:*", .variable "against" "text"])

/-- A factory of matchers that accept cells with a given text while a total has it too. -/
def holdsWithTotalDefinition : FactoryDefinition where
  name := "HoldsWithTotal"
  description := ""
  output := .matcher
  formals := [.single "text" .string]
  body := .tree (.call "root" "All" [.call "matchers" "Holds" [.variable "text" "text"],
    .call "matchers" "Exact" [.cell "input" "Totals:0:1", .variable "against" "text"]])

/-- The workbench with the one factory registered and the other put down. -/
def holdsBench : Workbench :=
  (new .withBuiltins).after ([.define holdsDefinition, .register 0,
    .define holdsWithTotalDefinition].map fun request => (.empty, request))

/-- A text that is read in a cell. -/
def holdsArguments : List Argument := [⟨"text", .cell (.within "Notes" (some 2) none)⟩]

/-- The matcher that `Holds` builds of that text. -/
def holdsRule : Matcher where
  name := "Holds"
  arguments := holdsArguments
  references := [.any, .within "Notes" (some 2) none]
  body := .equal (.cell .any) (.cell (.within "Notes" (some 2) none))

/-- Both factories on `holdsBench` build what they declare; a call keeps the cells of the factory
that it calls. -/
theorem holdsBench_makes :
    (∃ f, holdsBench.registry.factory? "Holds" = some f ∧
      f.Makes holdsArguments (.matcher holdsRule)) ∧
    ∃ f valid i, holdsBench.pending? 1 = some f ∧
      f.signature.validate .empty holdsArguments = .ok valid ∧ f.Makes valid i ∧
      i.references =
        [.any, .within "Notes" (some 2) none, .within "Totals" (some 0) (some 1)] := by
  have hreachable : holdsBench.Reachable := ⟨_, rfl⟩
  have hholds : (holdsBench.buildRegistered .empty "Holds" true holdsArguments).answer =
      .ok (.matcher holdsRule) := rfl
  obtain ⟨f, valid, hf, -, hmakes⟩ := hreachable.exists_makes.1 "Holds" hholds
  obtain rfl : holdsArguments = valid := hmakes.arguments
  let g := (holdsBench.pending? 1).get rfl
  have hg : holdsBench.pending? 1 = some g := rfl
  have hreferences : (holdsBench.buildPending .empty 1 g true holdsArguments).answer.toOption.map
      Instance.references =
        some [.any, .within "Notes" (some 2) none, .within "Totals" (some 0) (some 1)] := by
    decide +kernel
  cases htotal : (holdsBench.buildPending .empty 1 g true holdsArguments).answer with
  | error e =>
    rw [htotal] at hreferences
    contradiction
  | ok i =>
    rw [htotal] at hreferences
    obtain ⟨valid, hvalid, hmakes'⟩ := hreachable.exists_makes.2 1 g hg htotal
    exact ⟨⟨f, hf, hmakes⟩, g, valid, i, hg, hvalid, hmakes', Option.some.inj hreferences⟩

end Workbench

end GridAudit
