import GridAudit.Proofs.Registered
import GridAudit.Proofs.Typing

/-!
# Faults of trees are no false alarms

A tree that builds a rule from some arguments has no faults but one kind: a matcher given where a
replacer is expected, which building a rule allows for and the checker refuses. For a rule to be
built every node must be evaluated, hence every call given valid arguments; what the checker asks of
the slots and types of its children follows, as long as each child yields something, that is, all
formals must be given and every variable names one.
-/

namespace GridAudit

/-- Whether a fault is that a matcher is given where a replacer is expected. -/
def TreeFault.isLenient : TreeFault → Bool
  | .misfit _ _ .replacer found => found = ValueType.matcher.name
  | .wrongOutput _ .replacer .matcher => true
  | _ => false

/-- Whether a node, if it stands for an argument, names a formal. -/
def Node.isDeclared (s : Signature) : Node → Bool
  | .variable _ argument => (s.formal? argument).isSome
  | _ => true

namespace Node

variable {s callee : Signature} {env : Environment} {arguments yielded bound : List Argument}

/-! ## Types -/

/-- A node fits a slot whose type it yields a value for, unless it yields matchers for a slot of
replacers. -/
theorem fits_or_of_isSome_convert {n : Node} (hs : s.Typed env.vars arguments)
    (h : n.evaluate env false arguments = .ok yielded) {type found : ValueType}
    (hfound : n.yields? s = some found) {a : Argument} (ha : a ∈ yielded)
    (hconvert : (a.value.convert env.vars type).isSome) :
    n.fits type found ∨ type = .replacer ∧ found = .matcher := by
  have htype := (typed_of_evaluate hs h a ha).2 found hfound
  by_cases hplain : type.isPlain
  · -- No rule converts to a plain type, so the node yields plain values.
    refine .inl ?_
    have hfoundPlain : found.isPlain := by
      cases hrule : found.isPlain with
      | true => rfl
      | false => simp [htype.convert_eq_none_of_isPlain hrule hplain] at hconvert
    cases n with
    | constant slot value =>
      obtain rfl := Except.ok.inj h
      obtain rfl := List.mem_singleton.mp ha
      rw [Param.convert_of_isPlain hplain, Param.convertPlain, Option.isSome_map] at hconvert
      simp [fits, hplain, hconvert]
    | cell | «variable» => simp [fits, hplain, hfoundPlain]
    | call slot factory children =>
      obtain rfl := Option.some.inj hfound
      simp [factory.output.isPlain_type] at hfoundPlain
  · by_cases heq : found = type
    · exact .inl (by simp [fits, heq])
    cases type with
    | string | int | real | char => contradiction
    | matcher => simp [htype.convert_matcher_eq_none heq] at hconvert
    | replacer =>
      cases found with
      | replacer => contradiction
      | matcher => exact .inr ⟨rfl, rfl⟩
      | string | int | real | char =>
        refine .inl ?_
        cases n <;> simp [fits, ValueType.isPlain, ValueType.isRule]

/-- A child that yields values for its slot has no other misfit than being a matcher for a slot of
replacers. -/
theorem isLenient_of_misfit? {c : Node} {part : List Argument} (hs : s.Typed env.vars arguments)
    (h : c.evaluate env false arguments = .ok part) (hne : part ≠ [])
    (hconvert : ∀ a ∈ part, ∃ f, callee.formal? a.slot = some f ∧
      (a.value.convert env.vars f.type).isSome)
    {fault : TreeFault} (hfault : c.misfit? s callee = some fault) : fault.isLenient := by
  obtain ⟨a, ha⟩ := List.exists_mem_of_ne_nil part hne
  obtain ⟨f, hf, hvalue⟩ := hconvert a ha
  rw [(typed_of_evaluate hs h a ha).1] at hf
  obtain ⟨g, hg, hfault⟩ := Option.bind_eq_some_iff.mp hfault
  obtain rfl := Option.some.inj (hf.symm.trans hg)
  obtain ⟨found, hfound, hfault⟩ := Option.bind_eq_some_iff.mp hfault
  split at hfault
  · contradiction
  · next hmisfit =>
    obtain rfl := Option.some.inj hfault
    obtain ⟨hreplacer, rfl⟩ :=
      (fits_or_of_isSome_convert hs h hfound ha hvalue).resolve_left hmisfit
    cases c with
    | constant slot value =>
      exact absurd (Option.some.inj hfound ▸ value.isPlain_type) (by decide)
    | cell => simp [yields?] at hfound
    | «variable» | call => simp [TreeFault.isLenient, hreplacer, foundText]

/-! ## Slots -/

/-- Where all formals must be given and variables name formals, a node yields something. -/
theorem ne_nil_of_evaluate {n : Node} (hs : s.Typed env.vars arguments)
    (hrequired : ∀ f ∈ s.formals, f.isRequired) (hdeclared : n.isDeclared s)
    (h : n.evaluate env false arguments = .ok yielded) : yielded ≠ [] := by
  cases n with
  | constant | cell =>
    obtain rfl := Except.ok.inj h
    exact List.cons_ne_nil _ _
  | «variable» slot argument =>
    obtain rfl := Except.ok.inj h
    obtain ⟨f, hf⟩ := Option.isSome_iff_exists.mp hdeclared
    have hvalues := hs.valuesOf_ne_nil hf (hrequired f (List.mem_of_find?_eq_some hf))
    simpa using hvalues
  | call slot factory children =>
    obtain ⟨_, _, -, -, rfl⟩ := evaluate_call_eq_ok.mp h
    exact List.cons_ne_nil _ _

/-- What one of several nodes yields is among what they yield. -/
theorem exists_subset_of_mem {nodes : List Node}
    (h : evaluateAll env false arguments nodes = .ok bound) :
    ∀ n ∈ nodes, ∃ part, n.evaluate env false arguments = .ok part ∧ part ⊆ bound := by
  induction nodes generalizing bound with
  | nil => exact List.forall_mem_nil _
  | cons n rest ih =>
    obtain ⟨first, more, hfirst, hmore, rfl⟩ := bind_bind_eq_ok.mp h
    refine List.forall_mem_cons.mpr
      ⟨⟨first, hfirst, List.subset_append_left first more⟩, fun m hm => ?_⟩
    obtain ⟨part, hpart, hsubset⟩ := ih hmore m hm
    exact ⟨part, hpart, fun a ha => List.mem_append_right first (hsubset ha)⟩

/-- Nodes each of which yields something feed their slots at least once each. -/
theorem sublist_of_evaluateAll {nodes : List Node} (hs : s.Typed env.vars arguments)
    (hsome : ∀ n ∈ nodes, ∀ part, n.evaluate env false arguments = .ok part → part ≠ [])
    (h : evaluateAll env false arguments nodes = .ok bound) :
    (nodes.map Node.slot).Sublist (bound.map Bound.slot) := by
  induction nodes generalizing bound with
  | nil => exact List.nil_sublist _
  | cons n rest ih =>
    obtain ⟨hn, hrest⟩ := List.forall_mem_cons.mp hsome
    obtain ⟨first, more, hfirst, hmore, rfl⟩ := bind_bind_eq_ok.mp h
    obtain ⟨a, ha⟩ := List.exists_mem_of_ne_nil first (hn first hfirst)
    have hslot : n.slot ∈ first.map Bound.slot :=
      (typed_of_evaluate hs hfirst a ha).1 ▸ List.mem_map_of_mem ha
    rw [List.map_append]
    exact (List.singleton_sublist.mpr hslot).append (ih hrest hmore)

/-- Children whose values are wired to the formals are wired to them. -/
theorem wired_of_evaluateAll {children : List Node} (hs : s.Typed env.vars arguments)
    (hsome : ∀ c ∈ children, ∀ part, c.evaluate env false arguments = .ok part → part ≠ [])
    (h : evaluateAll env false arguments children = .ok bound)
    (hwired : callee.Wired (bound.map Bound.slot)) : callee.Wired (children.map Node.slot) := by
  have hsublist := sublist_of_evaluateAll hs hsome h
  constructor
  case declared => exact fun slot hslot => hwired.declared slot (hsublist.subset hslot)
  case single =>
    exact fun slot hcount => hwired.single slot (Nat.lt_of_lt_of_le hcount (hsublist.count_le slot))
  case complete =>
    intro f hf hrequired
    obtain ⟨a, ha, hslot⟩ := List.mem_map.mp (hwired.complete f hf hrequired)
    obtain ⟨c, hc, part, hpart, ha⟩ := exists_of_mem_evaluateAll h a ha
    rw [← hslot, (typed_of_evaluate hs hpart a ha).1]
    exact List.mem_map_of_mem hc

/-! ## Trees -/

/-- A node is among the nodes of its tree. -/
theorem mem_nodes_self (n : Node) : n ∈ n.nodes := by
  cases n <;> exact List.mem_cons_self

/-- Nodes are among the nodes of their trees. -/
theorem mem_nodesOf {nodes : List Node} {n : Node} (hn : n ∈ nodes) : n ∈ nodesOf nodes := by
  induction nodes with
  | nil => contradiction
  | cons m rest ih =>
    rw [nodesOf, List.mem_append]
    rcases List.mem_cons.mp hn with rfl | hn
    · exact .inl n.mem_nodes_self
    · exact .inr (ih hn)

mutual

/-- A node that yields anything has lenient faults alone. -/
theorem isLenient_of_evaluate (n : Node) {path : List String} {yielded : List Argument}
    (hs : s.Typed env.vars arguments) (hrequired : ∀ f ∈ s.formals, f.isRequired)
    (hdeclared : ∀ m ∈ n.nodes, m.isDeclared s)
    (h : n.evaluate env false arguments = .ok yielded) :
    ∀ e ∈ n.errors s path, e.fault.isLenient := by
  cases n with
  | constant | cell => exact List.forall_mem_nil _
  | «variable» slot argument =>
    have hargument := hdeclared _ (mem_nodes_self _)
    have hnone : (s.formal? argument).isNone = false := by
      simpa [isDeclared, Option.isSome_iff_ne_none] using hargument
    simp [errors, hnone]
  | call slot factory children =>
    obtain ⟨bound, rule, hbound, hrule, -⟩ := evaluate_call_eq_ok.mp h
    -- The rule was built, so what the children yield was valid for the factory.
    obtain ⟨signature, body⟩ := factory
    obtain ⟨valid, hvalid, -⟩ := bind_eq_ok.mp hrule
    obtain ⟨hwired, hconvert⟩ := Signature.exists_validate_eq_ok_iff.mp ⟨valid, hvalid⟩
    rw [nodes, List.forall_mem_cons] at hdeclared
    have hsome (c : Node) (hc : c ∈ children) (part : List Argument)
        (hpart : c.evaluate env false arguments = .ok part) : part ≠ [] :=
      ne_nil_of_evaluate hs hrequired (hdeclared.2 c (mem_nodesOf hc)) hpart
    have hwiring := wiringFaults_eq_nil_iff.mpr (wired_of_evaluateAll hs hsome hbound hwired)
    intro e he
    simp only [errors, hwiring, List.map_nil, List.nil_append] at he
    rcases List.mem_append.mp he with he | he
    · obtain ⟨c, hc, he⟩ := List.mem_filterMap.mp he
      obtain ⟨fault, hfault, rfl⟩ := Option.map_eq_some_iff.mp he
      obtain ⟨part, hpart, hsubset⟩ := exists_subset_of_mem hbound c hc
      exact isLenient_of_misfit? hs hpart (hsome c hc part hpart)
        (fun a ha => hconvert a (hsubset ha)) hfault
    · exact isLenient_of_evaluateAll children hs hrequired hdeclared.2 hbound e he

/-- Children that yield anything have lenient faults alone. -/
theorem isLenient_of_evaluateAll (nodes : List Node) {path : List String} {bound : List Argument}
    (hs : s.Typed env.vars arguments) (hrequired : ∀ f ∈ s.formals, f.isRequired)
    (hdeclared : ∀ m ∈ nodesOf nodes, m.isDeclared s)
    (h : evaluateAll env false arguments nodes = .ok bound) :
    ∀ e ∈ errorsBelow s path nodes, e.fault.isLenient := by
  cases nodes with
  | nil => exact List.forall_mem_nil _
  | cons n rest =>
    obtain ⟨first, hfirst, h⟩ := bind_eq_ok.mp h
    obtain ⟨more, hmore, -⟩ := bind_eq_ok.mp h
    rw [nodesOf, List.forall_mem_append] at hdeclared
    rw [errorsBelow]
    exact List.forall_mem_append.mpr
      ⟨isLenient_of_evaluate n hs hrequired hdeclared.1 hfirst,
        isLenient_of_evaluateAll rest hs hrequired hdeclared.2 hmore⟩

end

end Node

/-- A root that yields what its factory adopts is at most a matcher for a factory of replacers. -/
theorem Signature.isLenient_of_adopt {s : Signature} {env : Environment} {root : Node}
    {arguments yielded : List Argument} {i : Instance} (hs : s.Typed env.vars arguments)
    (h : root.evaluate env false arguments = .ok yielded)
    (hadopt : s.adopt env arguments yielded = .ok i) :
    ∀ e ∈ s.outputErrors root, e.fault.isLenient := by
  obtain ⟨a, rule, rfl, hvalue, -⟩ := adopt_eq_ok.mp hadopt
  cases hfound : root.yields? s with
  | none => simp [outputErrors, hfound]
  | some found =>
    have htype := (Node.typed_of_evaluate hs h a (List.mem_singleton_self a)).2 found hfound
    simp only [outputErrors, hfound]
    split
    · exact List.forall_mem_nil _
    · next haccepts =>
      refine List.forall_mem_singleton.mpr ?_
      cases houtput : s.output with
      | matcher =>
        have hne : found ≠ .matcher := by
          rintro rfl
          simp [houtput, RuleKind.accepts, RuleKind.type] at haccepts
        rw [houtput, RuleKind.type, htype.convert_matcher_eq_none hne] at hvalue
        contradiction
      | replacer =>
        rw [houtput] at haccepts
        cases found with
        | matcher => rfl
        | string | int | real | char | replacer => exact absurd rfl haccepts

/-- A factory that builds a rule has lenient faults alone. -/
theorem FactoryOf.isLenient_of_instantiate {f : Factory} {env : Environment} {root : Node}
    {arguments : List Argument} {i : Instance} (hroot : f.tree? = some root)
    (hrequired : ∀ formal ∈ f.formals, formal.isRequired)
    (hdeclared : ∀ n ∈ root.nodes, n.isDeclared f.signature)
    (h : f.instantiate env false arguments = .ok i) : ∀ e ∈ f.check, e.fault.isLenient := by
  obtain ⟨signature, body⟩ := f
  cases body with
  | native => contradiction
  | tree =>
    obtain rfl := Option.some.inj hroot
    obtain ⟨valid, hvalid, h⟩ := bind_eq_ok.mp h
    obtain ⟨yielded, hyielded, hadopt⟩ := bind_eq_ok.mp h
    have hs := Signature.typed_of_validate hvalid
    exact List.forall_mem_append.mpr ⟨Signature.isLenient_of_adopt hs hyielded hadopt,
      Node.isLenient_of_evaluate _ hs hrequired hdeclared hyielded⟩

namespace Workbench

variable {w : Workbench}

/-- The tree checker raises no false alarm: a factory that was resolved and whose tree has a fault
other than a matcher given where a replacer is expected builds no rule from any arguments, whether
trees are optimized or not. All its formals must be given, and its variables name formals. -/
theorem Reachable.exists_error_of_check (hw : w.Reachable) {handle : Nat} {f : Factory}
    {root : Node} (hf : w.pending? handle = some f) (hroot : f.tree? = some root)
    (hrequired : ∀ formal ∈ f.formals, formal.isRequired)
    (hdeclared : ∀ n ∈ root.nodes, n.isDeclared f.signature) {e : TreeError} (he : e ∈ f.check)
    (hfault : e.fault.isLenient = false) (vars : Variables) (optimize : Bool)
    (arguments : List Argument) :
    ∃ cause, (w.buildPending vars handle f optimize arguments).answer = .error cause := by
  have hown : w.trees.Own w.registry (.pending handle) f := fun root' hroot' =>
    ⟨by simp only [trees, hf, Option.bind_some, hroot'], hw.sound.pending handle f hf root' hroot'⟩
  rw [buildPending, (hw.sound.build hown vars optimize arguments).1]
  cases hbuilt : f.instantiate (w.registry.environment vars) false arguments with
  | error cause => exact ⟨cause, rfl⟩
  | ok i =>
    have hlenient := FactoryOf.isLenient_of_instantiate hroot hrequired hdeclared hbuilt e he
    rw [hfault] at hlenient
    contradiction

/-- A factory whose tree feeds a slot that the factory called does not have. -/
def expectsDefinition : FactoryDefinition where
  name := "Expects"
  description := ""
  output := .matcher
  formals := [.single "text" .string]
  body := .tree (.call "root" "Not" [.call "matcher" "Exact"
    [.cell "input" "*:*:*", .variable "expected" "text"]])

/-- The workbench on which this factory was put down. -/
def expectsBench : Workbench := (new .withBuiltins).after [(.empty, .define expectsDefinition)]

/-- The factory on `expectsBench` has the fault of its tree, and builds no rule. -/
theorem expectsBench_exists_error :
    ∃ f, expectsBench.pending? 0 = some f ∧
      ⟨["root", "matcher"], .unknownSlot "Exact" "expected"⟩ ∈ f.check ∧
      ∀ vars optimize arguments, ∃ cause,
        (expectsBench.buildPending vars 0 f optimize arguments).answer = .error cause := by
  have hreachable : expectsBench.Reachable := ⟨_, rfl⟩
  have hf : expectsBench.pending? 0 = some ((expectsBench.pending? 0).get rfl) := rfl
  have hfault : (⟨["root", "matcher"], .unknownSlot "Exact" "expected"⟩ : TreeError) ∈
      ((expectsBench.pending? 0).get rfl).check := by decide +kernel
  exact ⟨_, hf, hfault, hreachable.exists_error_of_check hf rfl (by decide +kernel)
    (by decide +kernel) hfault rfl⟩

end Workbench

end GridAudit
