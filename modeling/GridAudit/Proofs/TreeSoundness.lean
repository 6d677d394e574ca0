import GridAudit.Proofs.Registered
import GridAudit.Proofs.Typing

/-!
# Checked trees fail in native bodies alone

A tree that was checked, given valid arguments, calls every factory with valid arguments and yields
at its root one value of the kind declared, so that only a native body can fail. The checker takes
a plain argument to fit any plain slot, which holds of its type and not of every value; so the trees
considered hand arguments on to slots of the same type, or of one that takes any plain value, and
each of their formals must be given one value.
-/

namespace GridAudit

/-! ## Trees that hand arguments on -/

/-- Whether every value of a type converts to another. -/
def ValueType.flowsTo (given slot : ValueType) : Bool :=
  given = slot || (given.isPlain && (slot = .string || slot = .replacer))

/-- An argument converts to the types that its type flows to. -/
theorem Param.HasType.isSome_convert_of_flowsTo {vars : Variables} {p : Param}
    {given slot : ValueType} (h : p.HasType vars given) (hflows : given.flowsTo slot) :
    (p.convert vars slot).isSome := by
  simp only [ValueType.flowsTo, Bool.or_eq_true, Bool.and_eq_true, decide_eq_true_eq] at hflows
  rcases hflows with rfl | ⟨hplain, rfl | rfl⟩
  · exact h.isSome_convert
  · exact h.isSome_convert_string hplain
  · exact p.isSome_convert_replacer vars

namespace Node

/-- Whether a child, if it stands for an argument, feeds a slot that the type of the argument flows
to. -/
def handsOn (enclosing callee : Signature) : Node → Bool
  | .variable slot argument =>
    match enclosing.formal? argument, callee.formal? slot with
    | some given, some formal => given.type.flowsTo formal.type
    | _, _ => true
  | _ => true

/-- Whether all children of a node that stand for arguments feed such slots. -/
def allHandOn (enclosing : Signature) : Node → Bool
  | .call _ callee children => children.all (·.handsOn enclosing callee.signature)
  | _ => true

end Node

/-- Whether each formal must be given one value. -/
def Signature.isStrict (s : Signature) : Bool := s.formals.all fun f => f.isRequired && !f.isArray

/-- Whether the tree of a factory, if it has one, hands on arguments each of which must be given one
value. -/
def FactoryOf.isStrict (f : Factory) : Bool :=
  match f.body with
  | .native _ => true
  | .tree root => f.signature.isStrict && root.nodes.all (·.allHandOn f.signature)

/-! ## Failures of native bodies -/

namespace Registry

/-- The failures that registered factories with native bodies raise when they are given valid
arguments: the body cannot be built from them, or it makes a rule of another kind. -/
inductive NativeFailure (r : Registry) (vars : Variables) : InstantiationError → Prop
  | buildFailed {g : Factory} {native : Builtin} {arguments : List Argument} {cause : BuildError}
      (hg : r.factory? g.name = some g) (hbody : g.body = .native native.id)
      (hnative : native ∈ r.natives) (hvalid : g.signature.Typed vars arguments)
      (hbuild : native.build arguments = .error cause) :
    NativeFailure r vars (.construction g.name (.buildFailed native.id cause))
  | wrongKind {g : Factory} {native : Builtin} {arguments : List Argument} {body : RuleBody}
      (hg : r.factory? g.name = some g) (hbody : g.body = .native native.id)
      (hnative : native ∈ r.natives) (hvalid : g.signature.Typed vars arguments)
      (hbuild : native.build arguments = .ok body) (hne : body.kind ≠ g.output) :
    NativeFailure r vars (.construction g.name (.wrongKind native.id body.kind g.output))

/-- A result that is no failure, or one that a native body raises. -/
def Safe {α : Type} (r : Registry) (vars : Variables) (x : Except InstantiationError α) : Prop :=
  ∀ e, x = .error e → r.NativeFailure vars e

namespace Safe

variable {α β : Type} {r : Registry} {vars : Variables}

/-- A success is safe. -/
theorem ok (a : α) : r.Safe vars (.ok a) := nofun

/-- A sequence of two steps is safe when the first is, and the second on what the first finds. -/
theorem bind {x : Except InstantiationError α} {f : α → Except InstantiationError β}
    (hx : r.Safe vars x) (hf : ∀ a, x = .ok a → r.Safe vars (f a)) : r.Safe vars (x >>= f) := by
  intro e h
  cases x with
  | error e' =>
    obtain rfl : e' = e := Except.error.inj h
    exact hx e' rfl
  | ok a => exact hf a rfl e h

end Safe

/-- The native body of a checked factory is there, and fails as native bodies do. -/
theorem Vetted.safe_buildNative {r : Registry} (hr : r.Vetted) {s : Signature} {id : String}
    (hf : r.factory? s.name = some ⟨s, .native id⟩) {vars : Variables} {arguments : List Argument}
    (hs : s.Typed vars arguments) :
    r.Safe vars (s.buildNative (r.environment vars) id arguments) := by
  intro e h
  have hnative := hr.natives _ (List.mem_of_find?_eq_some hf) id rfl
  obtain ⟨native, hfound⟩ := Option.isSome_iff_exists.mp (List.find?_isSome.mpr
    (List.any_eq_true.mp hnative))
  have hmem := List.mem_of_find?_eq_some hfound
  obtain rfl : native.id = id := by simpa using List.find?_some hfound
  have hfound : (r.environment vars).native? native.id = some native := hfound
  simp only [Signature.buildNative, hfound] at h
  cases hbuild : native.build arguments with
  | error cause =>
    simp only [hbuild] at h
    obtain rfl := Except.error.inj h
    exact .buildFailed (g := ⟨s, .native native.id⟩) hf rfl hmem hs hbuild
  | ok body =>
    simp only [hbuild] at h
    split at h
    · contradiction
    · next hkind =>
      obtain rfl := Except.error.inj h
      exact .wrongKind (g := ⟨s, .native native.id⟩) hf rfl hmem hs hbuild hkind

end Registry

/-! ## What calls are given -/

namespace Node

variable {s callee : Signature} {env : Environment} {arguments yielded bound : List Argument}

/-- A node without a fault presents a type. -/
theorem exists_yields?_of_errors {n : Node} {path : List String} (h : n.errors s path = []) :
    ∃ found, n.yields? s = some found := by
  cases n with
  | constant | cell | call => exact ⟨_, rfl⟩
  | «variable» slot argument =>
    cases hf : s.formal? argument with
    | none => simp [errors, hf] at h
    | some f => exact ⟨f.type, by simp only [yields?, hf, Option.map_some]⟩

/-- Children without a fault present types. -/
theorem exists_yields?_of_errorsBelow {children : List Node} {path : List String}
    (h : errorsBelow s path children = []) :
    ∀ c ∈ children, ∃ found, c.yields? s = some found := by
  induction children with
  | nil => exact List.forall_mem_nil _
  | cons c rest ih =>
    rw [errorsBelow, List.append_eq_nil_iff] at h
    exact List.forall_mem_cons.mpr ⟨exists_yields?_of_errors h.1, ih h.2⟩

/-- A node that fits a slot, and hands on what flows there, yields values that convert to its
type. -/
theorem isSome_convert_of_fits {n : Node} (hs : s.Typed env.vars arguments)
    (h : n.evaluate env false arguments = .ok yielded) {type found : ValueType}
    (hfound : n.yields? s = some found) (hfits : n.fits type found)
    (hflows : ∀ slot argument, n = .variable slot argument → found.flowsTo type) :
    ∀ a ∈ yielded, (a.value.convert env.vars type).isSome := by
  intro a ha
  have htype := (typed_of_evaluate hs h a ha).2 found hfound
  by_cases heq : found = type
  · exact heq ▸ htype.isSome_convert
  by_cases hreplacer : type = .replacer
  · exact hreplacer ▸ a.value.isSome_convert_replacer env.vars
  -- What is left are plain slots of another type, where it matters which node it is.
  cases n with
  | constant slot value =>
    obtain rfl := Except.ok.inj h
    obtain rfl := List.mem_singleton.mp ha
    by_cases hplain : type.isPlain
    · rw [Param.convert_of_isPlain hplain, Param.convertPlain, Option.isSome_map]
      simpa [fits, heq, hplain] using hfits
    · simp [fits, heq, hplain, hreplacer] at hfits
  | cell slot target =>
    obtain rfl := Except.ok.inj h
    obtain rfl := List.mem_singleton.mp ha
    have hplain : type.isPlain := by simpa [fits, heq, hreplacer] using hfits
    rw [Param.convert_of_isPlain hplain]
    rfl
  | «variable» slot argument => exact htype.isSome_convert_of_flowsTo (hflows slot argument rfl)
  | call slot factory children => simp [fits, heq, hreplacer] at hfits

/-- Where each formal is given one value, a node yields one. -/
theorem map_slot_of_evaluate {n : Node} (hs : s.Typed env.vars arguments) (hstrict : s.isStrict)
    (hfound : ∃ found, n.yields? s = some found)
    (h : n.evaluate env false arguments = .ok yielded) : yielded.map Bound.slot = [n.slot] := by
  cases n with
  | constant | cell =>
    obtain rfl := Except.ok.inj h
    rfl
  | «variable» slot argument =>
    obtain rfl := Except.ok.inj h
    obtain ⟨found, hfound⟩ := hfound
    obtain ⟨f, hf, -⟩ := Option.map_eq_some_iff.mp hfound
    have hformal := List.all_eq_true.mp hstrict f (List.mem_of_find?_eq_some hf)
    simp only [Bool.and_eq_true, Bool.not_eq_true'] at hformal
    obtain ⟨p, hp⟩ := hs.exists_valuesOf_eq hf hformal.1 hformal.2
    rw [hp]
    rfl
  | call slot factory children =>
    obtain ⟨_, _, -, -, rfl⟩ := evaluate_call_eq_ok.mp h
    rfl

/-- Where each formal is given one value, several nodes yield one for each. -/
theorem map_slot_of_evaluateAll {nodes : List Node} (hs : s.Typed env.vars arguments)
    (hstrict : s.isStrict) (hfound : ∀ n ∈ nodes, ∃ found, n.yields? s = some found)
    (h : evaluateAll env false arguments nodes = .ok bound) :
    bound.map Bound.slot = nodes.map Node.slot := by
  induction nodes generalizing bound with
  | nil =>
    obtain rfl := Except.ok.inj h
    rfl
  | cons n rest ih =>
    obtain ⟨hn, hrest⟩ := List.forall_mem_cons.mp hfound
    obtain ⟨first, more, hfirst, hmore, rfl⟩ := bind_bind_eq_ok.mp h
    rw [List.map_append, map_slot_of_evaluate hs hstrict hn hfirst, ih hrest hmore]
    rfl

/-- A call without faults is given valid arguments. -/
theorem exists_validate_of_evaluateAll {children : List Node} (hs : s.Typed env.vars arguments)
    (hstrict : s.isStrict) (hfound : ∀ c ∈ children, ∃ found, c.yields? s = some found)
    (hwiring : wiringFaults callee children = [])
    (hfits : ∀ c ∈ children, c.misfit? s callee = none)
    (hflows : ∀ c ∈ children, c.handsOn s callee)
    (h : evaluateAll env false arguments children = .ok bound) :
    ∃ valid, callee.validate env.vars bound = .ok valid := by
  have hslots := map_slot_of_evaluateAll hs hstrict hfound h
  have hwired := wiringFaults_eq_nil_iff.mp hwiring
  rw [Signature.exists_validate_eq_ok_iff, hslots]
  refine ⟨hwired, fun a ha => ?_⟩
  obtain ⟨c, hc, part, hpart, ha⟩ := exists_of_mem_evaluateAll h a ha
  have hslot := (typed_of_evaluate hs hpart a ha).1
  obtain ⟨f, hf⟩ := Option.isSome_iff_exists.mp (hwired.declared c.slot (List.mem_map_of_mem hc))
  obtain ⟨found, hfound⟩ := hfound c hc
  refine ⟨f, hslot ▸ hf, isSome_convert_of_fits hs hpart hfound ?_ ?_ a ha⟩
  · have hfits := hfits c hc
    simpa [misfit?, hf, hfound] using hfits
  · rintro name argument rfl
    obtain ⟨given, hgiven, rfl⟩ := Option.map_eq_some_iff.mp hfound
    have hf : callee.formal? name = some f := hf
    simpa [handsOn, hgiven, hf] using hflows _ hc

end Node

/-- What a root yields that serves its factory is adopted. -/
theorem Signature.exists_adopt_of_outputErrors {s : Signature} {env : Environment} {root : Node}
    {arguments yielded : List Argument} (hs : s.Typed env.vars arguments) (hstrict : s.isStrict)
    (hfound : ∃ found, root.yields? s = some found) (houtput : s.outputErrors root = [])
    (h : root.evaluate env false arguments = .ok yielded) :
    ∃ i, s.adopt env arguments yielded = .ok i := by
  obtain ⟨a, rfl, -⟩ := List.map_eq_singleton_iff.mp
    (Node.map_slot_of_evaluate hs hstrict hfound h)
  obtain ⟨found, hfound⟩ := hfound
  have htype := (Node.typed_of_evaluate hs h a (List.mem_singleton_self a)).2 found hfound
  have haccepts : s.output.accepts found := by simpa [outputErrors, hfound] using houtput
  have hconvert : (a.value.convert env.vars s.output.type).isSome := by
    simp only [RuleKind.accepts, Bool.or_eq_true, Bool.and_eq_true, decide_eq_true_eq] at haccepts
    rcases haccepts with rfl | ⟨hreplacer, -⟩
    · exact htype.isSome_convert
    · exact hreplacer ▸ a.value.isSome_convert_replacer env.vars
  obtain ⟨q, hq⟩ := Option.isSome_iff_exists.mp hconvert
  obtain ⟨rule, rfl, hkind⟩ := (Param.hasType_of_convert hq).exists_eq_toParam
  exact ⟨_, adopt_eq_ok.mpr ⟨a, rule, rfl, hq, hkind, rfl⟩⟩

/-! ## Trees that call registered factories -/

/-- A registry of checked and linked factories whose trees hand their arguments on. -/
structure Registry.Strict (r : Registry) : Prop where
  vetted : r.Vetted
  linked : r.Linked
  strict : ∀ f ∈ r.factories, f.isStrict

namespace Node

variable {r : Registry} {vars : Variables}

mutual

/-- A checked node that is given valid arguments fails in native bodies alone. -/
theorem safe_evaluate (hr : r.Strict) (n : Node) {s : Signature} {path : List String}
    {arguments : List Argument} (hn : n.Linked r) (herrors : n.errors s path = [])
    (hflows : ∀ m ∈ n.nodes, m.allHandOn s) (hstrict : s.isStrict)
    (hs : s.Typed vars arguments) :
    r.Safe vars (n.evaluate (r.environment vars) false arguments) := by
  cases n with
  | constant | cell | «variable» => exact .ok _
  | call slot factory children =>
    obtain ⟨hfactory, hchildren⟩ := hn
    simp only [errors, List.append_eq_nil_iff, List.map_eq_nil_iff,
      List.filterMap_eq_nil_iff, Option.map_eq_none_iff] at herrors
    obtain ⟨⟨hwiring, hfits⟩, hbelow⟩ := herrors
    rw [nodes, List.forall_mem_cons] at hflows
    rw [evaluate_call]
    -- The children are safe; what they yield is valid for the factory, which is registered.
    refine .bind (.bind ?_ fun bound hbound => ?_) fun rule _ => .ok _
    · exact safe_evaluateAll hr children hchildren hbelow hflows.2 hstrict hs
    · refine safe_instantiate hr factory hfactory ?_
      exact exists_validate_of_evaluateAll hs hstrict (exists_yields?_of_errorsBelow hbelow) hwiring
        hfits (List.all_eq_true.mp hflows.1) hbound

/-- Checked nodes that are given valid arguments fail in native bodies alone. -/
theorem safe_evaluateAll (hr : r.Strict) (nodes : List Node) {s : Signature} {path : List String}
    {arguments : List Argument} (hnodes : LinkedAll r nodes)
    (herrors : errorsBelow s path nodes = []) (hflows : ∀ m ∈ nodesOf nodes, m.allHandOn s)
    (hstrict : s.isStrict) (hs : s.Typed vars arguments) :
    r.Safe vars (evaluateAll (r.environment vars) false arguments nodes) := by
  cases nodes with
  | nil => exact .ok _
  | cons n rest =>
    obtain ⟨hn, hrest⟩ := hnodes
    rw [errorsBelow, List.append_eq_nil_iff] at herrors
    rw [nodesOf, List.forall_mem_append] at hflows
    refine .bind (safe_evaluate hr n hn herrors.1 hflows.1 hstrict hs) fun first _ => ?_
    refine .bind (safe_evaluateAll hr rest hrest herrors.2 hflows.2 hstrict hs) fun more _ => ?_
    exact .ok _

/-- A registered factory that is given valid arguments fails in native bodies alone. -/
theorem safe_instantiate (hr : r.Strict) (f : FactoryOf Node) {arguments : List Argument}
    (hf : r.factory? f.name = some f)
    (hvalid : ∃ valid, f.signature.validate vars arguments = .ok valid) :
    r.Safe vars (instantiate (r.environment vars) false f arguments) := by
  obtain ⟨signature, body⟩ := f
  obtain ⟨valid, hvalid⟩ := hvalid
  have hvalid : signature.validate (r.environment vars).vars arguments = .ok valid := hvalid
  rw [instantiate, hvalid]
  exact safe_build hr body hf (Signature.typed_of_validate hvalid)

/-- The body of a registered factory, given valid arguments, fails in native bodies alone. -/
theorem safe_build (hr : r.Strict) (body : FactoryBody Node) {s : Signature}
    {arguments : List Argument} (hf : r.factory? s.name = some ⟨s, body⟩)
    (hs : s.Typed vars arguments) :
    r.Safe vars (build (r.environment vars) false s arguments body) := by
  have hmem := List.mem_of_find?_eq_some hf
  cases body with
  | native id => exact hr.vetted.safe_buildNative hf hs
  | tree root =>
    have hcheck := hr.vetted.trees _ hmem
    simp only [FactoryOf.check, List.append_eq_nil_iff] at hcheck
    obtain ⟨houtput, herrors⟩ := hcheck
    have hstrict := hr.strict _ hmem
    simp only [FactoryOf.isStrict, Bool.and_eq_true, List.all_eq_true] at hstrict
    obtain ⟨hstrict, hflows⟩ := hstrict
    refine .bind ?_ fun yielded hyielded => ?_
    · exact safe_evaluate hr root (hr.linked _ _ hf root rfl) herrors hflows hstrict hs
    · obtain ⟨i, hi⟩ := Signature.exists_adopt_of_outputErrors hs hstrict
        (exists_yields?_of_errors herrors) houtput hyielded
      rw [hi]
      exact .ok i

end

end Node

namespace Workbench

variable {w : Workbench}

/-- Checked trees are sound: where all trees hand their arguments on, a registered factory that is
given valid arguments builds a rule or fails in a native body, on any workbench that a run leads to
and whether trees are optimized or not. -/
theorem Reachable.ok_or_nativeFailure (hw : w.Reachable)
    (hstrict : ∀ g ∈ w.registry.factories, g.isStrict) {name : String} {f : Factory}
    (hf : w.registry.factory? name = some f) {vars : Variables} {arguments valid : List Argument}
    (hvalid : f.signature.validate vars arguments = .ok valid) (optimize : Bool) :
    (∃ i, (w.buildRegistered vars name optimize arguments).answer = .ok i) ∨
      ∃ e, w.registry.NativeFailure vars e ∧
        (w.buildRegistered vars name optimize arguments).answer = .error (.instantiation e) := by
  obtain rfl := Registry.name_of_factory? hf
  have hanswer : (w.buildRegistered vars f.name optimize arguments).answer =
      (f.instantiate (w.registry.environment vars) false arguments).mapError .instantiation := by
    have hbuild := hw.sound.build (hw.sound.shared f hf) vars optimize arguments
    simp only [buildRegistered, Registry.factory_eq_ok.mpr hf, hbuild.1]
  have hsafe := Node.safe_instantiate ⟨hw.vetted, hw.sound.registry, hstrict⟩ f hf ⟨valid, hvalid⟩
  rw [hanswer]
  cases hbuilt : f.instantiate (w.registry.environment vars) false arguments with
  | ok i => exact .inl ⟨i, rfl⟩
  | error e => exact .inr ⟨e, hsafe e hbuilt, rfl⟩

/-- A factory of matchers that accept cells with a given text. -/
def saysDefinition : FactoryDefinition where
  name := "Says"
  description := ""
  output := .matcher
  formals := [.single "text" .string]
  body := .tree (.call "root" "Exact" [.cell "input" "*:*:*", .variable "against" "text"])

/-- A factory of matchers that accept cells with a given text of at least a given length. -/
def saysAtLeastDefinition : FactoryDefinition where
  name := "SaysAtLeast"
  description := ""
  output := .matcher
  formals := [.single "text" .string, .single "least" .int]
  body := .tree (.call "root" "All" [.call "matchers" "Says" [.variable "text" "text"],
    .call "matchers" "Length" [.cell "input" "*:*:*", .variable "min" "least"]])

/-- The workbench on which both factories are registered. -/
def saysBench : Workbench :=
  (new .withBuiltins).after ([.define saysDefinition, .register 0, .define saysAtLeastDefinition,
    .register 1].map fun request => (.empty, request))

/-- The arguments that `SaysAtLeast` is given; the second converts to a number. -/
def saysArguments : List Argument :=
  [⟨"text", .constant (.string "yes")⟩, ⟨"least", .constant (.string "2")⟩]

/-- All trees on `saysBench` hand their arguments on, and `SaysAtLeast`, whose arguments are valid,
builds a rule or fails in a native body. -/
theorem saysBench_ok_or_nativeFailure :
    (∀ g ∈ saysBench.registry.factories, g.isStrict) ∧
      ∃ f valid, saysBench.registry.factory? "SaysAtLeast" = some f ∧
        f.signature.validate .empty saysArguments = .ok valid ∧
        ((∃ i, (saysBench.buildRegistered .empty "SaysAtLeast" true saysArguments).answer = .ok i) ∨
          ∃ e, saysBench.registry.NativeFailure .empty e ∧
            (saysBench.buildRegistered .empty "SaysAtLeast" true saysArguments).answer =
              .error (.instantiation e)) := by
  have hstrict : ∀ g ∈ saysBench.registry.factories, g.isStrict := by decide +kernel
  have hreachable : saysBench.Reachable := ⟨_, rfl⟩
  let f := (saysBench.registry.factory? "SaysAtLeast").get rfl
  have hf : saysBench.registry.factory? "SaysAtLeast" = some f := rfl
  have hvalid : f.signature.validate .empty saysArguments =
      .ok [⟨"text", .constant (.string "yes")⟩, ⟨"least", .constant (.int 2)⟩] := rfl
  exact ⟨hstrict, f, _, hf, hvalid, hreachable.ok_or_nativeFailure hstrict hf hvalid true⟩

end Workbench

end GridAudit
