import GridAudit.Proofs.LateReading

/-!
# Cells on their way down a tree

A text given to a factory with a tree is converted for the formal it is bound to, and once more for
every slot it feeds below. A cell given in its place is not: it goes down as it is, and what it
holds is converted for the slot that reads it and for nothing else. The two come to the same for a
text that each slot on the way takes as it would have taken the text itself. A text that a formal
changes, such as a number written with blanks for a slot of text, is another one when it is read.
-/

namespace GridAudit

/-! ## Trees over the built-in rules -/

mutual

/-- A node whose calls are of factories over the built-in rules. -/
def Node.OverBuiltins : Node → Prop
  | .call _ factory children => factory.OverBuiltins ∧ Node.AllOverBuiltins children
  | _ => True

/-- A list of nodes whose calls are of factories over the built-in rules. -/
def Node.AllOverBuiltins : List Node → Prop
  | [] => True
  | n :: rest => n.OverBuiltins ∧ Node.AllOverBuiltins rest

/-- A built-in factory, or one with a tree over such. -/
def FactoryOf.OverBuiltins : FactoryOf Node → Prop
  | ⟨s, body⟩ => body.OverBuiltins s

/-- The body of a built-in factory with its signature, or a tree over such. -/
def FactoryBody.OverBuiltins (s : Signature) : FactoryBody Node → Prop
  | .native id => ∃ b, Registry.builtinFactory b = ⟨s, .native id⟩
  | .tree root => root.OverBuiltins

end

/-! ## What becomes of a text -/

mutual

/-- Whether a node takes a text as it is, when an argument of the tree is the text converted to a
type: where the argument feeds slots, these accept it. -/
def Node.Passes (text : String) (given : ValueType) (argument : String) (accepts : String → Prop) :
    Node → Prop
  | .constant _ _ | .cell _ _ => True
  | .variable slot name => name = argument → accepts slot
  | .call _ factory children =>
    Node.AllPass text given argument (fun slot => factory.Takes text given slot) children

/-- Whether all nodes of a list take a text as it is. -/
def Node.AllPass (text : String) (given : ValueType) (argument : String) (accepts : String → Prop) :
    List Node → Prop
  | [] => True
  | n :: rest =>
    n.Passes text given argument accepts ∧ Node.AllPass text given argument accepts rest

/-- Whether a factory takes a text as it is, when it is given for a slot after it was converted to a
type. -/
def FactoryOf.Takes (text : String) (given : ValueType) (slot : String) : FactoryOf Node → Prop
  | ⟨s, body⟩ => ∀ f, s.formal? slot = some f →
    PassesTo text given f.type ∧ body.Takes text f.type slot s.output

/-- Whether a body takes a text as it is, when an argument is the text converted to the type of its
formal. The root of a tree feeds the rule that the factory builds. -/
def FactoryBody.Takes (text : String) (given : ValueType) (argument : String) (output : RuleKind) :
    FactoryBody Node → Prop
  | .native _ => True
  | .tree root => root.Passes text given argument fun _ => PassesTo text given output.type

end

variable {K : Context → Prop} {env : Environment}

/-- A tree whose root yields what may be put for what another yields makes a rule that agrees. -/
theorem Signature.exists_adopt {s : Signature} {i : Instance}
    {arguments arguments' yielded yielded' : List Argument}
    (h : List.Forall₂ (Bound.StandsFor K fun text given _ => PassesTo text given s.output.type)
      yielded yielded')
    (hi : s.adopt env arguments yielded = .ok i) :
    ∃ i', s.adopt env arguments' yielded' = .ok i' ∧ i.AgreesOn K i' := by
  obtain ⟨root, rule, rfl, hvalue, hkind, rfl⟩ := adopt_eq_ok.mp hi
  cases h with
  | @cons _ root' _ _ hroot hrest =>
    cases hrest
    obtain ⟨value', hvalue', hstands⟩ : ∃ value',
        root'.value.convert env.vars s.output.type = some value' ∧
          rule.toParam.StandsFor K (fun _ _ => True) value' :=
      hroot.value.exists_convert hvalue fun text given hpasses => ⟨hpasses, trivial⟩
    obtain ⟨rule', rfl, hagrees⟩ := hstands.exists_eq_toParam
    exact ⟨_, adopt_eq_ok.mpr ⟨root', rule', rfl, hvalue', hagrees.kind ▸ hkind, rfl⟩,
      hagrees.relabel _ _ _⟩

namespace Node

mutual

/-- A node yields of what is put for the arguments what may be put for what it yields. -/
theorem exists_evaluate (n : Node) (hn : n.OverBuiltins)
    {arguments arguments' yielded : List Argument} {accepts : String → ValueType → String → Prop}
    (h : List.Forall₂ (Bound.StandsFor K fun text given slot =>
      n.Passes text given slot (accepts text given)) arguments arguments')
    (hyielded : n.evaluate env false arguments = .ok yielded) :
    ∃ yielded', n.evaluate env false arguments' = .ok yielded' ∧
      List.Forall₂ (Bound.StandsFor K accepts) yielded yielded' := by
  cases n with
  | constant | cell =>
    obtain rfl := Except.ok.inj hyielded
    exact ⟨_, rfl, .cons ⟨rfl, .same _⟩ .nil⟩
  | «variable» slot argument =>
    obtain rfl := Except.ok.inj hyielded
    refine ⟨_, rfl, ?_⟩
    rw [List.forall₂_map_left_iff, List.forall₂_map_right_iff]
    exact (Bound.forall₂_valuesOf h argument).imp fun p p' hp =>
      ⟨rfl, hp.mono fun text given hpasses => hpasses rfl⟩
  | call slot factory children =>
    obtain ⟨bound, rule, hbound, hrule, rfl⟩ := evaluate_call_eq_ok.mp hyielded
    obtain ⟨bound', hbound', hstands⟩ := exists_evaluateAll children hn.2 h hbound
    obtain ⟨rule', hrule', hagrees⟩ := exists_instantiate factory hn.1 hstands hrule
    exact ⟨_, evaluate_call_eq_ok.mpr ⟨bound', rule', hbound', hrule', rfl⟩,
      .cons ⟨rfl, .rule hagrees⟩ .nil⟩

/-- Nodes yield of what is put for the arguments what may be put for what they yield. -/
theorem exists_evaluateAll (nodes : List Node) (hnodes : AllOverBuiltins nodes)
    {arguments arguments' yielded : List Argument} {accepts : String → ValueType → String → Prop}
    (h : List.Forall₂ (Bound.StandsFor K fun text given slot =>
      AllPass text given slot (accepts text given) nodes) arguments arguments')
    (hyielded : evaluateAll env false arguments nodes = .ok yielded) :
    ∃ yielded', evaluateAll env false arguments' nodes = .ok yielded' ∧
      List.Forall₂ (Bound.StandsFor K accepts) yielded yielded' := by
  cases nodes with
  | nil =>
    obtain rfl := Except.ok.inj hyielded
    exact ⟨[], rfl, .nil⟩
  | cons n rest =>
    obtain ⟨first, more, hfirst, hmore, rfl⟩ := bind_bind_eq_ok.mp hyielded
    obtain ⟨first', hfirst', hstands⟩ := exists_evaluate n hnodes.1
      (h.imp fun _ _ ha => ha.mono fun _ _ _ hpasses => hpasses.1) hfirst
    obtain ⟨more', hmore', hrest⟩ := exists_evaluateAll rest hnodes.2
      (h.imp fun _ _ ha => ha.mono fun _ _ _ hpasses => hpasses.2) hmore
    exact ⟨_, bind_bind_eq_ok.mpr ⟨first', more', hfirst', hmore', rfl⟩,
      List.rel_append hstands hrest⟩

/-- A factory over the built-in rules builds of what is put for the arguments a rule that agrees. -/
theorem exists_instantiate (f : FactoryOf Node) (hf : f.OverBuiltins)
    {arguments arguments' : List Argument} {i : Instance}
    (h : List.Forall₂ (Bound.StandsFor K fun text given slot => f.Takes text given slot)
      arguments arguments')
    (hi : instantiate env false f arguments = .ok i) :
    ∃ i', instantiate env false f arguments' = .ok i' ∧ i.AgreesOn K i' := by
  obtain ⟨signature, body⟩ := f
  obtain ⟨valid, hvalid, hi⟩ := bind_eq_ok.mp hi
  obtain ⟨valid', hvalid', hstands⟩ : ∃ valid',
      signature.validate env.vars arguments' = .ok valid' ∧
        List.Forall₂ (Bound.StandsFor K fun text given slot =>
          body.Takes text given slot signature.output) valid valid' :=
    Signature.exists_validate h (fun text given slot f hf htakes => htakes f hf) hvalid
  obtain ⟨i', hi', hagrees⟩ :=
    exists_build body hf (Signature.typed_of_validate hvalid) hstands hi
  exact ⟨i', bind_eq_ok.mpr ⟨valid', hvalid', hi'⟩, hagrees⟩

/-- The body of such a factory builds of what is put for valid arguments a rule that agrees. -/
theorem exists_build (body : FactoryBody Node) {s : Signature} (hbody : body.OverBuiltins s)
    {arguments arguments' : List Argument} {i : Instance} (hs : s.Typed env.vars arguments)
    (h : List.Forall₂ (Bound.StandsFor K fun text given slot =>
      body.Takes text given slot s.output) arguments arguments')
    (hi : build env false s arguments body = .ok i) :
    ∃ i', build env false s arguments' body = .ok i' ∧ i.AgreesOn K i' := by
  cases body with
  | native id =>
    obtain ⟨b, hb⟩ := hbody
    obtain ⟨rfl, rfl⟩ : s = (Registry.builtinFactory b).signature ∧ id = b.id := by
      cases hb
      exact ⟨rfl, rfl⟩
    exact Builtin.exists_buildNative hs h hi
  | tree root =>
    obtain ⟨yielded, hyielded, hi⟩ := bind_eq_ok.mp hi
    obtain ⟨yielded', hyielded', hstands⟩ := exists_evaluate root hbody h hyielded
    obtain ⟨i', hi', hagrees⟩ := Signature.exists_adopt hstands hi
    exact ⟨i', bind_eq_ok.mpr ⟨yielded', hyielded', hi'⟩, hagrees⟩

end

end Node

namespace Workbench

section

variable {w : Workbench} {vars : Variables} {name argument text : String} {optimize : Bool}
  {before after : List Argument} {f : Factory} {i : Instance}

/-- If a registered factory over the built-in rules takes a text as it is, a rule that it builds of
the text, beside any other arguments, can be built of a cell in the place of the text, and the two
answer the same wherever the cell holds the text. -/
theorem Reachable.exists_outcome_eq_text (hw : w.Reachable) (hf : w.registry.factory? name = some f)
    (hover : f.OverBuiltins) (htakes : f.Takes text .string argument)
    (hi : (w.buildRegistered vars name optimize
      (before ++ ⟨argument, .constant (.string text)⟩ :: after)).answer = .ok i)
    (optimize' : Bool) (target : CellRange) :
    ∃ i', (w.buildRegistered vars name optimize'
        (before ++ ⟨argument, .cell target⟩ :: after)).answer = .ok i' ∧
      ∀ ctx, ctx.read target = .ok text → i'.outcome ctx = i.outcome ctx := by
  simp only [hw.sound.buildRegistered_eq_ok hf] at hi ⊢
  let K (ctx : Context) : Prop := ctx.read target = .ok text
  let allowed (text : String) (given : ValueType) (slot : String) : Prop := f.Takes text given slot
  have hsame (arguments : List Argument) :
      List.Forall₂ (Bound.StandsFor K allowed) arguments arguments :=
    List.forall₂_same.mpr fun _ _ => ⟨rfl, .same _⟩
  have hcell : Bound.StandsFor K allowed ⟨argument, .constant (.string text)⟩
      ⟨argument, .cell target⟩ :=
    ⟨rfl, .read htakes (fun _ hread => hread) rfl⟩
  obtain ⟨i', hi', hagrees⟩ := Node.exists_instantiate f hover
    (List.rel_append (hsame before) (.cons hcell (hsame after))) hi
  exact ⟨i', hi', fun ctx hctx => (hagrees.outcome ctx hctx).symm⟩

end

/-- The description of matchers that accept a whole number whose text is `7`. -/
def saysSevenDefinition : FactoryDefinition where
  name := "SaysSeven"
  description := ""
  output := .matcher
  formals := [.single "number" .int]
  body := .tree (.call "root" "Exact"
    [.variable "input" "number", .constant "against" (.string "7")])

/-- The factory of these matchers. -/
def saysSeven : Factory :=
  .define "SaysSeven" "" .matcher [.single "number" .int]
    (.tree (.call "root" (Registry.builtinFactory .exact)
      [.variable "input" "number", .constant "against" (.string "7")]))

/-- The workbench on which the factory is registered. -/
def sevenBench : Workbench :=
  (new .withBuiltins).after ([.define saysSevenDefinition, .register 0].map fun request =>
    (.empty, request))

/-- The matcher that the factory builds of a text for the number seven. -/
def saysSevenEarly : Matcher where
  name := "SaysSeven"
  arguments := [⟨"number", .constant (.int 7)⟩]
  references := []
  body := .equal (.constant (.string "7")) (.constant (.string "7"))

/-- The matcher that the factory builds of the cell at hand. -/
def saysSevenLate : Matcher where
  name := "SaysSeven"
  arguments := [⟨"number", .cell .any⟩]
  references := [.any]
  body := .equal (.cell .any) (.constant (.string "7"))

/-- The text `7` is how its number is written, so the factory takes it as it is: the rule built of a
cell that holds it accepts. -/
theorem exists_outcome_eq_seven :
    ∃ i', (sevenBench.buildRegistered .empty "SaysSeven" true
        [⟨"number", .cell .any⟩]).answer = .ok i' ∧
      i'.outcome ⟨fun _ => .ok "7", .empty, ⟨"S", 0, 0⟩⟩ = .inl (.ok true) := by
  have hreachable : sevenBench.Reachable := ⟨_, rfl⟩
  have hfound : sevenBench.registry.factory? "SaysSeven" = some saysSeven := rfl
  have hover : saysSeven.OverBuiltins := ⟨⟨.exact, rfl⟩, trivial, trivial, trivial⟩
  have hseven : (Constant.string "7").convert .int = some (.int 7) := rfl
  have hpasses : PassesTo "7" .int .string := (passesTo_string_iff hseven).mpr rfl
  have htakes : saysSeven.Takes "7" .string "number" := by
    intro f hf
    obtain rfl : Formal.single "number" .int = f := Option.some.inj hf
    refine ⟨passesTo_of_string _ _, ⟨fun _ f hf => ?_, trivial, trivial⟩⟩
    obtain rfl : Formal.single "input" .string = f := Option.some.inj hf
    exact ⟨hpasses, trivial⟩
  have hbuilt : (sevenBench.buildRegistered .empty "SaysSeven" true
      ([] ++ ⟨"number", .constant (.string "7")⟩ :: [])).answer = .ok (.matcher saysSevenEarly) :=
    rfl
  obtain ⟨i', hi', houtcome⟩ :=
    hreachable.exists_outcome_eq_text hfound hover htakes hbuilt true .any
  exact ⟨i', hi', houtcome _ rfl⟩

/-- In general a rule built of a cell does not answer like the one built of the text in the cell: a
whole number written with a blank in front says seven when it was converted, and does not when it is
read as a text. -/
theorem not_outcome_eq_text :
    ¬ ∀ (w : Workbench) (vars : Variables) (name argument text : String) (f : Factory)
      (root : Node) (formal : Formal) (before after : List Argument) (target : CellRange)
      (i i' : Instance) (ctx : Context), w.Reachable → w.registry.factory? name = some f →
        f.body = .tree root → f.OverBuiltins → f.signature.formal? argument = some formal →
        formal.type.isPlain →
        (w.buildRegistered vars name true
          (before ++ ⟨argument, .constant (.string text)⟩ :: after)).answer = .ok i →
        (w.buildRegistered vars name true
          (before ++ ⟨argument, .cell target⟩ :: after)).answer = .ok i' →
        ctx.read target = .ok text → i'.outcome ctx = i.outcome ctx := by
  intro h
  have hearly : (sevenBench.buildRegistered .empty "SaysSeven" true
      ([] ++ ⟨"number", .constant (.string " 7")⟩ :: [])).answer = .ok (.matcher saysSevenEarly) :=
    rfl
  have hlate : (sevenBench.buildRegistered .empty "SaysSeven" true
      ([] ++ ⟨"number", .cell .any⟩ :: [])).answer = .ok (.matcher saysSevenLate) := rfl
  have hover : saysSeven.OverBuiltins := ⟨⟨.exact, rfl⟩, trivial, trivial, trivial⟩
  have heq := h sevenBench .empty "SaysSeven" "number" " 7" saysSeven _ _ [] [] .any _ _
    ⟨fun _ => .ok " 7", .empty, ⟨"S", 0, 0⟩⟩ ⟨_, rfl⟩ rfl rfl hover rfl rfl hearly hlate rfl
  have hdiffer : (Sum.inl (.ok false) : Except EvalError Bool ⊕ Except EvalError Constant) =
      .inl (.ok true) := heq
  simp at hdiffer

end Workbench

end GridAudit
