import GridAudit.Proofs.Optimization

/-!
# Building and evaluating a definition

A definition of a node builds a rule by itself in one pass, in which each child is resolved and
evaluated before the next one is looked at, and the call at the root is built by name, with
optimization if the registry is set so. Where the whole definition is resolved before anything is
evaluated, and nothing is optimized, the same definitions succeed, and with the same rule.
-/

namespace GridAudit

/-! ## Calls -/

namespace NodeDefinition

variable {r : Registry} {vars : Variables} {slot name : String} {children : List NodeDefinition}
  {n : Node} {i : Instance}

/-- A definition that builds a rule by itself is a call, and all of it is resolved. -/
theorem exists_of_instantiate {d : NodeDefinition} (h : d.instantiate r vars = .ok i) :
    (∃ slot name children, d = call slot name children) ∧ ∃ n, d.resolve r = .ok n := by
  cases d with
  | constant | cell | «variable» => contradiction
  | call slot name children =>
    obtain ⟨arguments, harguments, h⟩ := bind_eq_ok.mp h
    obtain ⟨nodes, hnodes, -⟩ := yieldAll_eq_ok.mp harguments
    obtain ⟨f, hf, -⟩ := bind_eq_ok.mp h
    exact ⟨⟨slot, name, children, rfl⟩, _, bind_bind_eq_ok.mpr ⟨f, nodes, hf, hnodes, rfl⟩⟩

/-- What a resolved call yields without arguments is the rule that the call builds by itself. -/
theorem evaluate_eq_ok_of_resolve {yielded : List Argument}
    (hn : (call slot name children).resolve r = .ok n) :
    n.evaluate (r.environment vars) false [] = .ok yielded ↔
      ∃ i, (call slot name children).instantiate r vars = .ok i ∧
        yielded = [⟨n.slot, i.toParam⟩] := by
  obtain ⟨f, nodes, hf, hnodes, rfl⟩ := bind_bind_eq_ok.mp hn
  constructor
  · intro h
    obtain ⟨bound, i, hbound, hi, rfl⟩ := Node.evaluate_call_eq_ok.mp h
    refine ⟨i, bind_eq_ok.mpr ⟨bound, yieldAll_eq_ok.mpr ⟨nodes, hnodes, hbound⟩, ?_⟩, rfl⟩
    refine bind_eq_ok.mpr ⟨f, hf, mapError_eq_ok.mpr ?_⟩
    rwa [FactoryOf.instantiate, Node.instantiate_optimize_eq]
  · rintro ⟨i, h, rfl⟩
    obtain ⟨bound, hbound, h⟩ := bind_eq_ok.mp h
    obtain ⟨nodes', hnodes', hbound⟩ := yieldAll_eq_ok.mp hbound
    obtain rfl := Except.ok.inj (hnodes.symm.trans hnodes')
    obtain ⟨f', hf', h⟩ := bind_eq_ok.mp h
    obtain rfl := Except.ok.inj (hf.symm.trans hf')
    have hi := mapError_eq_ok.mp h
    rw [FactoryOf.instantiate, Node.instantiate_optimize_eq] at hi
    exact Node.evaluate_call_eq_ok.mpr ⟨bound, i, hbound, hi, rfl⟩

end NodeDefinition

/-! ## Workbenches -/

namespace Workbench

variable {w : Workbench} {vars : Variables} {d : NodeDefinition}

/-- On a sound workbench a definition builds what the registry alone builds from it, whatever rules
are kept. -/
theorem Sound.answer_instantiateDefinition (hw : w.Sound) :
    (w.instantiateDefinition vars d).answer = d.instantiate w.registry vars := by
  cases d with
  | constant | cell | «variable» => rfl
  | call slot name children =>
    simp only [instantiateDefinition, NodeDefinition.instantiate]
    cases NodeDefinition.yieldAll w.registry vars children with
    | error e => rfl
    | ok arguments => exact (hw.answer_buildRegistered ..).trans (w.registry.instantiate_plain ..)

/-- The rule that a definition builds by itself and what the node resolved from it yields without
arguments and optimization. -/
structure BuildsAsEvaluated (w : Workbench) (vars : Variables) (d : NodeDefinition) : Prop where
  /-- A rule is built when the definition is a call, all of it is resolved and the node yields
  something. -/
  builds_iff : (∃ i, (w.instantiateDefinition vars d).answer = .ok i) ↔
    (∃ slot name children, d = .call slot name children) ∧
      ∃ n yielded, d.resolve w.registry = .ok n ∧
        n.evaluate (w.registry.environment vars) false [] = .ok yielded
  /-- All that the node yields is the rule built, with its kind, name, arguments, references and
  body. -/
  same : ∀ i n yielded, (w.instantiateDefinition vars d).answer = .ok i →
    d.resolve w.registry = .ok n →
    n.evaluate (w.registry.environment vars) false [] = .ok yielded →
    yielded = [⟨n.slot, i.toParam⟩]

/-- On a sound workbench definitions build as their nodes are evaluated. -/
theorem Sound.buildsAsEvaluated (hw : w.Sound) (vars : Variables) (d : NodeDefinition) :
    w.BuildsAsEvaluated vars d := by
  constructor <;> rw [hw.answer_instantiateDefinition]
  case builds_iff =>
    constructor
    · rintro ⟨i, hi⟩
      obtain ⟨⟨slot, name, children, rfl⟩, n, hn⟩ := NodeDefinition.exists_of_instantiate hi
      have hyielded := (NodeDefinition.evaluate_eq_ok_of_resolve hn).mpr ⟨i, hi, rfl⟩
      exact ⟨⟨slot, name, children, rfl⟩, n, _, hn, hyielded⟩
    · rintro ⟨⟨slot, name, children, rfl⟩, n, yielded, hn, hyielded⟩
      obtain ⟨i, hi, -⟩ := (NodeDefinition.evaluate_eq_ok_of_resolve hn).mp hyielded
      exact ⟨i, hi⟩
  case same =>
    intro i n yielded hi hn hyielded
    obtain ⟨⟨slot, name, children, rfl⟩, -⟩ := NodeDefinition.exists_of_instantiate hi
    obtain ⟨i', hi', rfl⟩ := (NodeDefinition.evaluate_eq_ok_of_resolve hn).mp hyielded
    rw [Except.ok.inj (hi.symm.trans hi')]

/-- Building and evaluating a definition agree: after any run from a registry without trees, and
with optimization set or not, a definition builds a rule by itself when it is a call whose node
yields something without arguments, and what the node yields is that rule. -/
theorem buildsAsEvaluated_after {r : Registry} (hr : ∀ f ∈ r.factories, f.tree? = none)
    (steps : List (Variables × Request)) (optimize : Bool) (vars : Variables) (d : NodeDefinition) :
    (((new r).after steps).setOptimize optimize).BuildsAsEvaluated vars d :=
  (((sound_new hr).after steps).serve_alike vars (.setOptimize optimize)).sound.buildsAsEvaluated
    vars d

/-- A call of a built-in rule with a call of `Yes` below it and a variable that yields nothing. -/
def notYesNode : NodeDefinition :=
  .call "root" "Not" [.call "matcher" "Yes" [], .variable "matcher" "absent"]

/-- After `yesRun`, along which the rule below the root was kept, `notYesNode` builds the rule that
its node yields. -/
theorem buildsAsEvaluated_notYesNode :
    (∀ f ∈ Registry.withBuiltins.factories, f.tree? = none) ∧
      let w := ((new .withBuiltins).after yesRun).setOptimize true
      w.BuildsAsEvaluated .empty notYesNode ∧ w.folds.kept.length = 1 ∧
        ∃ i, (w.instantiateDefinition .empty notYesNode).answer = .ok i := by
  have htrees := Registry.tree?_withBuiltins
  exact ⟨htrees, buildsAsEvaluated_after htrees yesRun true .empty notYesNode, rfl, _, rfl⟩

end Workbench

end GridAudit
