import Mathlib.Data.List.Forall2
import GridAudit.Proofs.TreeSoundness

/-!
# Naming a rule does not change its meaning

A factory with a tree names a rule. A call of it can be inlined: the tree takes the place of the
call, and the children of the call the place of the variables that stand for their arguments. What
such a child yields is converted for the formal it feeds, and again for the slot that the variable
feeds; after inlining it is converted for that slot alone. An argument that was converted to a type
is converted to it as it is, so where the two types agree nothing else changes, and the inlined tree
builds the rule of the call but for its name and arguments.
-/

namespace GridAudit

/-- Conversion twice to one type is conversion once. -/
theorem Param.convert_of_convert {vars : Variables} {p q : Param} {type : ValueType}
    (h : p.convert vars type = some q) : q.convert vars type = some q :=
  (hasType_of_convert h).convert_eq

/-! ## Inlined trees -/

namespace Node

/-- The node, feeding another slot. -/
def reslot (slot : String) : Node → Node
  | .constant _ value => .constant slot value
  | .cell _ target => .cell slot target
  | .variable _ argument => .variable slot argument
  | .call _ factory children => .call slot factory children

/-- Whether a node stands for an argument. -/
def isVariable : Node → Bool
  | .variable _ _ => true
  | _ => false

mutual

/-- The node with a given node in the place of each variable: the one that feeds the argument, now
feeding the slot of the variable. -/
def inlined (given : List Node) : Node → Node
  | .variable slot argument =>
    match given.find? (·.slot = argument) with
    | some c => c.reslot slot
    | none => .variable slot argument
  | .call slot factory children => .call slot factory (inlinedAll given children)
  | n => n

/-- The nodes of a list with given nodes in the places of the variables. -/
def inlinedAll (given : List Node) : List Node → List Node
  | [] => []
  | n :: rest => n.inlined given :: inlinedAll given rest

end

/-- Whether a child, if it stands for an argument, feeds a slot of the type of that argument. -/
def keepsType (enclosing callee : Signature) : Node → Bool
  | .variable slot argument =>
    match enclosing.formal? argument, callee.formal? slot with
    | some given, some formal => given.type = formal.type
    | _, _ => false
  | _ => true

/-- Whether all children of a node that stand for arguments feed such slots. -/
def allKeepType (enclosing : Signature) : Node → Bool
  | .call _ callee children => children.all (·.keepsType enclosing callee.signature)
  | _ => true

end Node

/-! ## Arguments that are coerced alike -/

namespace Signature

variable {s : Signature} {vars : Variables} {arguments arguments' valid : List Argument}

/-- Arguments for one slot that coercion makes one. -/
structure CoercesAlike (s : Signature) (vars : Variables) (a b : Argument) : Prop where
  slot : a.slot = b.slot
  coerce : s.coerce vars a = s.coerce vars b

/-- Arguments that are coerced alike have the same slots. -/
theorem map_slot_eq_of_coercesAlike
    (h : List.Forall₂ (s.CoercesAlike vars) arguments arguments') :
    arguments.map Bound.slot = arguments'.map Bound.slot :=
  map_eq_map_of_forall₂ h fun _ _ ha => ha.slot

/-- Arguments that are coerced alike one by one are so together. -/
theorem coerceAll_eq_of_coercesAlike
    (h : List.Forall₂ (s.CoercesAlike vars) arguments arguments') :
    s.coerceAll vars arguments = s.coerceAll vars arguments' := by
  induction h with
  | nil => rfl
  | cons ha _ ih => rw [coerceAll, coerceAll, ha.coerce, ih]

/-- Arguments that are coerced alike are valid together. -/
theorem validate_of_coercesAlike
    (halike : List.Forall₂ (s.CoercesAlike vars) arguments arguments')
    (h : s.validate vars arguments = .ok valid) : s.validate vars arguments' = .ok valid := by
  rw [validate_eq_ok, map_slot_eq_of_coercesAlike halike, coerceAll_eq_of_coercesAlike halike] at h
  exact validate_eq_ok.mpr h

end Signature

namespace Node

variable {s callee : Signature} {env : Environment} {arguments yielded bound valid : List Argument}
  {given : List Node} {f : Factory} {rule : Instance}

/-- A factory builds one rule from arguments that are coerced alike. -/
theorem instantiate_of_coercesAlike {bound' : List Argument}
    (halike : List.Forall₂ (f.signature.CoercesAlike env.vars) bound bound')
    (h : instantiate env false f bound = .ok rule) :
    instantiate env false f bound' = .ok rule := by
  obtain ⟨signature, body⟩ := f
  obtain ⟨valid, hvalid, hrule⟩ := bind_eq_ok.mp h
  exact bind_eq_ok.mpr ⟨valid, Signature.validate_of_coercesAlike halike hvalid, hrule⟩

/-! ## What the children of a call supply -/

/-- A node that is no variable yields one value, whichever slot it feeds. -/
theorem exists_evaluate_reslot {n : Node} (hn : !n.isVariable)
    (h : n.evaluate env false arguments = .ok yielded) :
    ∃ value, yielded = [⟨n.slot, value⟩] ∧
      ∀ slot, (n.reslot slot).evaluate env false arguments = .ok [⟨slot, value⟩] := by
  cases n with
  | constant | cell =>
    obtain rfl := Except.ok.inj h
    exact ⟨_, rfl, fun _ => rfl⟩
  | «variable» => contradiction
  | call slot factory children =>
    obtain ⟨bound, rule, hbound, hrule, rfl⟩ := evaluate_call_eq_ok.mp h
    exact ⟨_, rfl, fun _ => evaluate_call_eq_ok.mpr ⟨bound, rule, hbound, hrule, rfl⟩⟩

/-- What a node yields for a signature, whichever slot it feeds, is coerced to an argument. -/
def Supplies (s : Signature) (env : Environment) (arguments : List Argument) (n : Node)
    (a : Argument) : Prop :=
  ∃ value, (∀ slot, (n.reslot slot).evaluate env false arguments = .ok [⟨slot, value⟩]) ∧
    s.coerce env.vars ⟨n.slot, value⟩ = .ok a

/-- Each of the nodes that feed a call supplies one of the valid arguments. -/
theorem supplies_of_evaluateAll (hgiven : ∀ c ∈ given, !c.isVariable)
    (h : evaluateAll env false arguments given = .ok bound)
    (hvalid : s.coerceAll env.vars bound = .ok valid) :
    List.Forall₂ (Supplies s env arguments) given valid := by
  induction given generalizing bound valid with
  | nil =>
    obtain rfl := Except.ok.inj h
    obtain rfl := Except.ok.inj hvalid
    exact .nil
  | cons c rest ih =>
    obtain ⟨hc, hrest⟩ := List.forall_mem_cons.mp hgiven
    obtain ⟨first, more, hfirst, hmore, rfl⟩ := bind_bind_eq_ok.mp h
    obtain ⟨value, rfl, hvalue⟩ := exists_evaluate_reslot hc hfirst
    obtain ⟨a, others, ha, hothers, rfl⟩ := bind_bind_eq_ok.mp hvalid
    exact .cons ⟨value, hvalue, ha⟩ (ih hrest hmore hothers)

/-- A supplied argument feeds the slot of its node. -/
theorem Supplies.slot_eq {n : Node} {a : Argument} (h : Supplies s env arguments n a) :
    n.slot = a.slot := by
  obtain ⟨value, -, ha⟩ := h
  obtain ⟨f, -, -, hslot⟩ := Signature.coerce_eq_ok.mp ha
  exact hslot

/-- Given nodes that stand in for valid arguments: one feeds each formal, and what it yields,
whichever slot it feeds, becomes the one value of the argument when it is converted to the type of
the formal. -/
def StandIn (s : Signature) (env : Environment) (arguments : List Argument) (given : List Node)
    (valid : List Argument) : Prop :=
  ∀ name g, s.formal? name = some g → ∃ c value value',
    given.find? (·.slot = name) = some c ∧
      (∀ slot, (c.reslot slot).evaluate env false arguments = .ok [⟨slot, value⟩]) ∧
      value.convert env.vars g.type = some value' ∧ Bound.valuesOf name valid = [value']

/-- Nodes that supply valid arguments, one for each formal, stand in for them. -/
theorem standIn_of_supplies (h : List.Forall₂ (Supplies s env arguments) given valid)
    (hone : ∀ g ∈ s.formals, (given.map Node.slot).count g.name = 1) :
    StandIn s env arguments given valid := by
  intro name g hg
  replace hone := hone g (List.mem_of_find?_eq_some hg)
  rw [Signature.name_of_formal? hg, ← countP_slot_eq_count, List.countP_eq_length_filter,
    List.length_eq_one_iff] at hone
  obtain ⟨c, hc⟩ := hone
  -- The arguments of a name are supplied by the nodes that feed it, which is one node.
  have hnamed : List.Forall₂ (Supplies s env arguments) (given.filter (·.slot = name))
      (valid.filter (·.slot = name)) := by
    refine List.rel_filter (fun n a hn => ?_) h
    simp only [hn.slot_eq]
  obtain ⟨a, ha⟩ : ∃ a, valid.filter (·.slot = name) = [a] := by
    rw [← List.length_eq_one_iff, ← hnamed.length_eq, hc]
    rfl
  rw [hc, ha, List.forall₂_cons] at hnamed
  obtain ⟨⟨value, hvalue, hcoerce⟩, -⟩ := hnamed
  have hfind : given.find? (·.slot = name) = some c := by
    rw [← List.head?_filter, hc, List.head?_cons]
  have hslot : c.slot = name := by simpa using List.find?_some hfind
  obtain ⟨g', hg', hconvert, -⟩ := Signature.coerce_eq_ok.mp hcoerce
  obtain rfl : g = g' := Option.some.inj (hg.symm.trans (hslot ▸ hg'))
  refine ⟨c, value, a.value, hfind, hvalue, hconvert, ?_⟩
  rw [Bound.valuesOf, ha]
  rfl

/-! ## Evaluation of inlined trees -/

/-- A variable feeds a slot of the type of its argument when both are declared, with one type. -/
theorem keepsType_variable {slot argument : String} :
    (Node.variable slot argument).keepsType s callee ↔
      ∃ g formal, s.formal? argument = some g ∧ callee.formal? slot = some formal ∧
        g.type = formal.type := by
  simp only [keepsType]
  cases s.formal? argument <;> cases callee.formal? slot <;> simp

/-- The node in the place of a variable, which feeds a slot of the type of its argument, yields what
is coerced like the argument. -/
theorem exists_evaluate_inlined_variable (hstand : StandIn s env arguments given valid)
    {slot argument : String} (hkeeps : (Node.variable slot argument).keepsType s callee)
    (h : (Node.variable slot argument).evaluate env false valid = .ok yielded) :
    ∃ yielded', ((Node.variable slot argument).inlined given).evaluate env false arguments =
        .ok yielded' ∧
      List.Forall₂ (callee.CoercesAlike env.vars) yielded yielded' := by
  obtain ⟨g, formal, hg, hformal, htype⟩ := keepsType_variable.mp hkeeps
  obtain ⟨c, value, value', hfind, hvalue, hconvert, hvalues⟩ := hstand argument g hg
  rw [htype] at hconvert
  obtain rfl := Except.ok.inj h
  have hslot : (Node.variable slot argument).inlined given = c.reslot slot := by
    simp only [inlined, hfind]
  have htwice : callee.coerce env.vars ⟨slot, value'⟩ = .ok ⟨slot, value'⟩ :=
    Signature.coerce_eq_ok.mpr ⟨formal, hformal, Param.convert_of_convert hconvert, rfl⟩
  have honce : callee.coerce env.vars ⟨slot, value⟩ = .ok ⟨slot, value'⟩ :=
    Signature.coerce_eq_ok.mpr ⟨formal, hformal, hconvert, rfl⟩
  rw [hslot, hvalues]
  exact ⟨[⟨slot, value⟩], hvalue slot, .cons ⟨rfl, htwice.trans honce.symm⟩ .nil⟩

mutual

/-- A node that is no variable yields the same when it is inlined. -/
theorem evaluate_inlined (hstand : StandIn s env arguments given valid) (n : Node)
    {yielded : List Argument} (hn : !n.isVariable) (hkeeps : ∀ m ∈ n.nodes, m.allKeepType s)
    (h : n.evaluate env false valid = .ok yielded) :
    (n.inlined given).evaluate env false arguments = .ok yielded := by
  cases n with
  | constant | cell => exact h
  | «variable» => contradiction
  | call slot factory children =>
    rw [nodes, List.forall_mem_cons] at hkeeps
    obtain ⟨bound, rule, hbound, hrule, hyielded⟩ := evaluate_call_eq_ok.mp h
    obtain ⟨bound', hbound', halike⟩ := exists_evaluateAll_inlined hstand children
      (List.all_eq_true.mp hkeeps.1) hkeeps.2 hbound
    exact evaluate_call_eq_ok.mpr
      ⟨bound', rule, hbound', instantiate_of_coercesAlike halike hrule, hyielded⟩

/-- The children of a call yield what is coerced alike when they are inlined. -/
theorem exists_evaluateAll_inlined (hstand : StandIn s env arguments given valid)
    (nodes : List Node) {callee : Signature} {bound : List Argument}
    (hnodes : ∀ n ∈ nodes, n.keepsType s callee) (hkeeps : ∀ m ∈ nodesOf nodes, m.allKeepType s)
    (h : evaluateAll env false valid nodes = .ok bound) :
    ∃ bound', evaluateAll env false arguments (inlinedAll given nodes) = .ok bound' ∧
      List.Forall₂ (callee.CoercesAlike env.vars) bound bound' := by
  cases nodes with
  | nil =>
    obtain rfl := Except.ok.inj h
    exact ⟨[], rfl, .nil⟩
  | cons n rest =>
    rw [nodesOf, List.forall_mem_append] at hkeeps
    obtain ⟨hn, hrest⟩ := List.forall_mem_cons.mp hnodes
    obtain ⟨first, more, hfirst, hmore, rfl⟩ := bind_bind_eq_ok.mp h
    obtain ⟨more', hmore', halikeMore⟩ :=
      exists_evaluateAll_inlined hstand rest hrest hkeeps.2 hmore
    have hhead : ∃ first', (n.inlined given).evaluate env false arguments = .ok first' ∧
        List.Forall₂ (callee.CoercesAlike env.vars) first first' := by
      by_cases hvariable : n.isVariable
      · cases n with
        | constant | cell | call => contradiction
        | «variable» => exact exists_evaluate_inlined_variable hstand hn hfirst
      · refine ⟨first, evaluate_inlined hstand n (by simpa using hvariable) hkeeps.1 hfirst, ?_⟩
        exact List.forall₂_same.mpr fun _ _ => ⟨rfl, rfl⟩
    obtain ⟨first', hfirst', halikeFirst⟩ := hhead
    refine ⟨first' ++ more', ?_, List.rel_append halikeFirst halikeMore⟩
    rw [inlinedAll, evaluateAll, hfirst', hmore']
    rfl

end

/-- A call is no variable. -/
theorem not_isVariable_of_factory? {n : Node} (hn : n.factory?.isSome) : !n.isVariable := by
  cases n with
  | call => rfl
  | constant | cell | «variable» => contradiction

/-- A call stays one when it is inlined. -/
theorem isSome_factory?_inlined {n : Node} (hn : n.factory?.isSome) :
    (n.inlined given).factory?.isSome := by
  cases n with
  | call => rfl
  | constant | cell | «variable» => contradiction

/-- A call yields one rule, of the kind that the call presents. -/
theorem exists_rule_of_evaluate {n : Node} (hn : n.factory?.isSome)
    (h : n.evaluate env false arguments = .ok yielded) :
    ∃ i : Instance, yielded = [⟨n.slot, i.toParam⟩] ∧ n.yields? s = some i.kind.type := by
  cases n with
  | constant | cell | «variable» => contradiction
  | call slot factory children =>
    obtain ⟨_, i, -, hi, rfl⟩ := evaluate_call_eq_ok.mp h
    exact ⟨i, rfl, by rw [kind_of_instantiate hi]; rfl⟩

end Node

/-- A factory adopts the rule of a root that serves it, but for its name and arguments. -/
theorem Signature.adopt_of_outputErrors {s : Signature} {env : Environment} {root : Node}
    {arguments : List Argument} {i : Instance} (houtput : s.outputErrors root = [])
    (hroot : root.yields? s = some i.kind.type) (slot : String) :
    s.adopt env arguments [⟨slot, i.toParam⟩] = .ok (i.relabel s.name arguments) := by
  have htype : s.output.type = i.kind.type := by
    simpa [outputErrors, hroot, RuleKind.accepts, RuleKind.isPlain_type, eq_comm] using houtput
  have hconvert := (Param.hasType_toParam env.vars i).convert_eq
  simp only [adopt, htype, hconvert, Option.bind_some, Param.toInstance?_toParam]

/-- A factory whose tree starts with a call builds the rule of its root, but for its name and
arguments. -/
theorem Node.exists_of_instantiate {f : Factory} {root : Node} {env : Environment}
    {bound : List Argument} {rule : Instance} (hcheck : f.check = [])
    (hroot : f.tree? = some root) (hcall : root.factory?.isSome)
    (h : instantiate env false f bound = .ok rule) :
    ∃ valid i, f.signature.validate env.vars bound = .ok valid ∧
      root.evaluate env false valid = .ok [⟨root.slot, Instance.toParam i⟩] ∧
      i.relabel f.name valid = rule := by
  obtain ⟨s, body⟩ := f
  cases body with
  | native id => contradiction
  | tree root' =>
    obtain rfl : root' = root := Option.some.inj hroot
    obtain ⟨valid, hvalid, h⟩ := bind_eq_ok.mp h
    obtain ⟨yielded, hyielded, h⟩ := bind_eq_ok.mp h
    obtain ⟨i, rfl, hyields⟩ := exists_rule_of_evaluate (s := s) hcall hyielded
    have houtput : s.outputErrors root' = [] := (List.append_eq_nil_iff.mp hcheck).1
    rw [Signature.adopt_of_outputErrors houtput hyields] at h
    exact ⟨valid, i, hvalid, hyielded, Except.ok.inj h⟩

/-! ## Calls and what inlines them -/

/-- One rule for one slot on both sides, which answers the same in every context. -/
def SameRule (yielded yielded' : List Argument) : Prop :=
  ∃ (slot : String) (i j : Instance), yielded = [⟨slot, i.toParam⟩] ∧
    yielded' = [⟨slot, j.toParam⟩] ∧ ∀ ctx, i.outcome ctx = j.outcome ctx

/-- Whenever the first evaluation succeeds, so does the second, with the same rule. -/
def ServesFor (x x' : Except InstantiationError (List Argument)) : Prop :=
  ∀ yielded, x = .ok yielded → ∃ yielded', x' = .ok yielded' ∧ SameRule yielded yielded'

namespace Node

variable {env : Environment} {arguments : List Argument} {f : Factory} {root : Node}
  {children : List Node} {slot : String}

/-- The inlined tree serves for a call of a checked factory. -/
theorem servesFor_inlined (hcheck : f.check = []) (hroot : f.tree? = some root)
    (hcall : root.factory?.isSome) (hkeeps : ∀ n ∈ root.nodes, n.allKeepType f.signature)
    (hone : ∀ g ∈ f.formals, (children.map Node.slot).count g.name = 1)
    (hchildren : ∀ c ∈ children, !c.isVariable) :
    ServesFor ((Node.call slot f children).evaluate env false arguments)
      (((root.inlined children).reslot slot).evaluate env false arguments) := by
  intro yielded h
  obtain ⟨bound, rule, hbound, hrule, rfl⟩ := evaluate_call_eq_ok.mp h
  obtain ⟨valid, i, hvalid, hi, rfl⟩ := exists_of_instantiate hcheck hroot hcall hrule
  have hstand : StandIn f.signature env arguments children valid := by
    apply standIn_of_supplies _ hone
    exact supplies_of_evaluateAll hchildren hbound (Signature.coerceAll_of_validate hvalid)
  have hinlined : (root.inlined children).evaluate env false arguments =
      .ok [⟨root.slot, i.toParam⟩] :=
    evaluate_inlined hstand root (not_isVariable_of_factory? hcall) hkeeps hi
  have hreslot : ((root.inlined children).reslot slot).evaluate env false arguments =
      .ok [⟨slot, i.toParam⟩] := by
    obtain ⟨value, hvalue, hslot⟩ := exists_evaluate_reslot
      (not_isVariable_of_factory? (isSome_factory?_inlined hcall)) hinlined
    simp only [List.cons.injEq, Bound.mk.injEq, and_true] at hvalue
    rw [hslot slot, hvalue.2]
  exact ⟨_, hreslot, slot, _, i, rfl, rfl, fun ctx => i.outcome_relabel _ _ ctx⟩

end Node

namespace Workbench

variable {w : Workbench}

/-- A second node inlines a first: it serves for the first on its own, and when both were put down
and are evaluated with rules kept, whether trees are optimized or not on either side. -/
structure Inlines (w : Workbench) (n n' : Node) : Prop where
  evaluates (vars : Variables) (optimize optimize' : Bool) (arguments : List Argument) :
    ServesFor (n.evaluate (w.registry.environment vars) optimize arguments)
      (n'.evaluate (w.registry.environment vars) optimize' arguments)
  keeps (vars : Variables) (optimize optimize' : Bool) (arguments : List Argument)
    {handle handle' : Nat} (hn : w.node? handle = some n) (hn' : w.node? handle' = some n') :
    ServesFor (w.evaluate vars handle n optimize arguments).answer
      (w.evaluate vars handle' n' optimize' arguments).answer

/-- Naming a rule does not change its meaning. On any workbench that a run leads to, a registered
factory whose tree starts with a call and hands every argument on to slots of its type may be
inlined: where a call of it has one child for each formal and none is a variable, the tree with
these children in place of its variables builds a rule whenever the call does, and both rules answer
the same in every context. -/
theorem Reachable.inlines (hw : w.Reachable) {name : String} {f : Factory}
    (hf : w.registry.factory? name = some f) {root : Node} (hroot : f.tree? = some root)
    (hcall : root.factory?.isSome) (hkeeps : ∀ n ∈ root.nodes, n.allKeepType f.signature)
    {children : List Node} (hone : ∀ g ∈ f.formals, (children.map Node.slot).count g.name = 1)
    (hchildren : ∀ c ∈ children, !c.isVariable) (slot : String) :
    w.Inlines (.call slot f children) ((root.inlined children).reslot slot) := by
  have hcheck := hw.vetted.trees f (List.mem_of_find?_eq_some hf)
  have hserves (vars : Variables) (arguments : List Argument) :
      ServesFor
        ((Node.call slot f children).evaluate (w.registry.environment vars) false arguments)
        (((root.inlined children).reslot slot).evaluate (w.registry.environment vars) false
          arguments) :=
    Node.servesFor_inlined hcheck hroot hcall hkeeps hone hchildren
  constructor
  case evaluates =>
    intro vars optimize optimize' arguments
    rw [Node.evaluate_optimize_eq _ optimize, Node.evaluate_optimize_eq _ optimize']
    exact hserves vars arguments
  case keeps =>
    intro vars optimize optimize' arguments handle handle' hn hn'
    rw [(hw.sound.evaluate hn vars optimize arguments).1,
      (hw.sound.evaluate hn' vars optimize' arguments).1]
    exact hserves vars arguments

/-- The workbench on which `Says` and `SaysAtLeast` are registered; a call of the second is put
down, and after it what inlines the call. -/
def inliningBench : Workbench :=
  (new .withBuiltins).after ([.define saysDefinition, .register 0, .define saysAtLeastDefinition,
    .register 1,
    .keepNode (.call "root" "SaysAtLeast"
      [.cell "text" "*:*:*", .constant "least" (.string "2")]),
    .keepNode (.call "root" "All" [.call "matchers" "Says" [.cell "text" "*:*:*"],
      .call "matchers" "Length" [.cell "input" "*:*:*", .constant "min" (.string "2")]])].map
    fun request => (.empty, request))

/-- The call on `inliningBench` succeeds, and the node after it inlines it. -/
theorem inlines_inliningBench :
    ∃ f root children, inliningBench.registry.factory? "SaysAtLeast" = some f ∧
      f.tree? = some root ∧ root.factory?.isSome ∧
      (∀ n ∈ root.nodes, n.allKeepType f.signature) ∧
      (∀ g ∈ f.formals, (children.map Node.slot).count g.name = 1) ∧
      (∀ c ∈ children, !c.isVariable) ∧
      inliningBench.node? 0 = some (.call "root" f children) ∧
      inliningBench.node? 1 = some ((root.inlined children).reslot "root") ∧
      inliningBench.Inlines (.call "root" f children) ((root.inlined children).reslot "root") ∧
      ∃ yielded, (inliningBench.evaluate .empty 0 (.call "root" f children) true []).answer =
        .ok yielded := by
  let f := (inliningBench.registry.factory? "SaysAtLeast").get rfl
  let children := ((inliningBench.node? 0).get rfl).children
  have hf : inliningBench.registry.factory? "SaysAtLeast" = some f := rfl
  have hroot : f.tree? = some (f.tree?.get rfl) := rfl
  have hkeeps : ∀ n ∈ (f.tree?.get rfl).nodes, n.allKeepType f.signature := by decide +kernel
  have hone : ∀ g ∈ f.formals, (children.map Node.slot).count g.name = 1 := by decide +kernel
  have hchildren : ∀ c ∈ children, !c.isVariable := by decide +kernel
  have hreachable : inliningBench.Reachable := ⟨_, rfl⟩
  exact ⟨f, _, children, hf, hroot, rfl, hkeeps, hone, hchildren, rfl, rfl,
    hreachable.inlines hf hroot rfl hkeeps hone hchildren "root", _, rfl⟩

end Workbench

end GridAudit
