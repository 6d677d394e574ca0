import GridAudit.Proofs.LateReading

/-!
# Built-in rules read texts in cells as texts

A built-in rule takes texts, which are converted and compiled when it is built. A cell may be given
in the place of any of them, and is then read on every run. Where the cells hold the texts, the two
rules answer the same; and no built-in rule that could be built of texts fails.
-/

namespace GridAudit

/-! ## Actions of constants -/

namespace Operand

variable {o : Operand} {operands : List Operand} {type : ValueType}

/-- A constant has its value. -/
theorem settles_resolve (h : o.IsOf type) (ho : o ∈ operands) :
    Settles operands fun ctx => o.resolve ctx := by
  intro hoperands
  obtain ⟨value, rfl, -⟩ := h.exists_eq_constant (hoperands o ho)
  exact ⟨value, fun _ => rfl⟩

/-- Constants are joined. -/
theorem settles_readJoined {parts : List Operand} (h : ∀ o ∈ parts, o.IsOf type)
    (hsubset : parts ⊆ operands) : Settles operands fun ctx => readJoined ctx parts := by
  induction parts with
  | nil => exact .pure _ _
  | cons o rest ih =>
    obtain ⟨ho, hrest⟩ := List.forall_mem_cons.mp h
    obtain ⟨hmem, hsubset⟩ := List.cons_subset.mp hsubset
    exact .bind (settles_readString ho hmem) fun _ => .bind (ih hrest hsubset) fun _ => .pure _ _

end Operand

/-- A whole number is brought within bounds that are whole numbers. -/
theorem Bounds.settles_clamp {b : Bounds} (value : Int64) (h : ∀ o ∈ b.operands, o.IsOf .int)
    {operands : List Operand} (hsubset : b.operands ⊆ operands) :
    Settles operands fun ctx => b.clamp ctx value := by
  obtain ⟨least, greatest⟩ := b
  have hread {o : Operand} (ho : o ∈ (Bounds.mk least greatest).operands) :
      Settles operands fun ctx => o.readInt ctx :=
    Operand.settles_readInt (h o ho) (hsubset ho)
  have hgreatest (value : Int64) :
      Settles operands fun ctx => (Bounds.mk none greatest).clamp ctx value := by
    simp only [clamp, pure_bind]
    cases greatest with
    | none => exact .pure _ _
    | some o => exact .bind (hread (List.mem_append_right _ List.mem_cons_self)) fun _ => .pure _ _
  cases least with
  | none => exact hgreatest value
  | some o =>
    simp only [clamp, pure_bind] at hgreatest ⊢
    exact .bind (hread List.mem_cons_self) fun least => hgreatest (max value least)

/-- An action that proposes a value once none of its operands is a variable or a cell. -/
def Action.Settled (a : Action Param) : Prop :=
  Settles a.operands fun ctx => a.run ctx >>= fun p => p.resolve ctx

namespace Builtin

variable {vars : Variables} {s : Signature} {arguments : List Argument} {f : Formal}

/-- An action on an operand is settled when it is for one of the type of its formal. -/
theorem settled_action_of_operandBody {make : Operand → Action Param} {a : Action Param}
    {slot : String} (hs : s.Typed vars arguments) (hf : s.formal? slot = some f)
    (hplain : f.type.isPlain)
    (h : (operandOf arguments slot >>= fun o => .ok (.action (make o))) = .ok (RuleBody.action a))
    (hmake : ∀ o, o.IsOf f.type → (make o).Settled) : a.Settled := by
  obtain ⟨o, ho, h⟩ := bind_eq_ok.mp h
  obtain rfl := RuleBody.action.inj (Except.ok.inj h)
  exact hmake o (isOf_of_operandOf hs hf hplain ho)

/-- A built-in action is settled when its arguments have the types its factory declares. -/
theorem settled_action_of_build {b : Builtin} {a : Action Param} (hkind : b.kind = .replacer)
    (hs : (Registry.builtinFactory b).signature.Typed vars arguments)
    (h : b.build arguments = .ok (.action a)) : a.Settled := by
  cases b <;> try contradiction
  case literal =>
    refine settled_action_of_operandBody hs rfl rfl h fun value hvalue => ?_
    simp only [Action.Settled, Action.run, bind_assoc, pure_bind]
    exact .bind (Operand.settles_resolve hvalue List.mem_cons_self) fun _ => .pure _ _
  case trim | upper | lower =>
    refine settled_action_of_operandBody hs rfl rfl h fun input hinput => ?_
    simp only [Action.Settled, Action.run, Action.run.text, bind_assoc, pure_bind]
    exact .bind (Operand.settles_readString hinput List.mem_cons_self) fun _ => .pure _ _
  case concat =>
    obtain rfl := RuleBody.action.inj (Except.ok.inj h)
    have hformal : (Registry.builtinFactory .concat).signature.formal? "parts" =
        some (Formal.single "parts" .string).array := rfl
    have hparts := isOf_of_mem_operandsOf hs hformal rfl
    simp only [Action.Settled, Action.run, bind_assoc, pure_bind]
    exact .bind (Operand.settles_readJoined hparts (List.Subset.refl _)) fun _ => .pure _ _
  case regexReplace =>
    obtain ⟨input, hinput, h⟩ := bind_eq_ok.mp h
    obtain ⟨pattern, hpattern, h⟩ := bind_eq_ok.mp h
    obtain ⟨replacement, hreplacement, h⟩ := bind_eq_ok.mp h
    obtain rfl := RuleBody.action.inj (Except.ok.inj h)
    have hinput := isOf_of_operandOf hs rfl rfl hinput
    have hreplacement := isOf_of_operandOf hs rfl rfl hreplacement
    obtain ⟨o, ho, hsource⟩ := exists_of_patternOf hpattern
    have ho := isOf_of_operandOf hs rfl rfl ho
    simp only [Action.Settled, Action.run, bind_assoc, pure_bind]
    exact .bind (Operand.settles_readString hinput (by simp [Action.operands])) fun _ =>
      .bind (Operand.settles_readString hreplacement (by simp [Action.operands])) fun _ =>
        .bind (PatternSource.settles_program ho hsource fun o ho => by simp [Action.operands, ho])
          fun _ => .pure _ _
  case clampInt =>
    refine settled_action_of_operandBody hs rfl rfl h fun input hinput => ?_
    have hbounds := isOf_of_mem_boundsOf hs rfl rfl rfl rfl
    simp only [Action.Settled, Action.run, bind_assoc, pure_bind]
    exact .bind (Operand.settles_readInt hinput List.mem_cons_self) fun value =>
      .bind (Bounds.settles_clamp value hbounds (List.subset_cons_self ..)) fun _ => .pure _ _

end Builtin

/-! ## Rules of constants -/

/-- A list of constants. -/
def ConstantAll (arguments : List Argument) : Prop :=
  ∀ a ∈ arguments, ∃ value, a.value = .constant value

/-- A rule that answers in a context: a matcher that accepts or refuses, or a replacer that proposes
a value. -/
def Instance.Answers (i : Instance) (ctx : Context) : Prop :=
  (∃ accepted, i.outcome ctx = .inl (.ok accepted)) ∨ ∃ value, i.outcome ctx = .inr (.ok value)

/-- Valid constants are constants, unless one is taken for a replacer. -/
theorem Signature.constantAll_of_validate {s : Signature} {vars : Variables}
    {arguments valid : List Argument} (hformals : ∀ f ∈ s.formals, f.type ≠ .replacer)
    (harguments : ConstantAll arguments) (h : s.validate vars arguments = .ok valid) :
    ConstantAll valid := by
  have hcoerced := coerceAll_eq_ok_iff.mp (coerceAll_of_validate h)
  clear h
  induction hcoerced with
  | nil => exact List.forall_mem_nil _
  | cons hfirst _ ih =>
    obtain ⟨⟨value, hvalue⟩, hrest⟩ := List.forall_mem_cons.mp harguments
    obtain ⟨f, hf, hconvert, -⟩ := coerce_eq_ok.mp hfirst
    refine List.forall_mem_cons.mpr ⟨?_, ih hrest⟩
    rw [hvalue] at hconvert
    by_cases hplain : f.type.isPlain
    · rw [Param.convert_of_isPlain hplain] at hconvert
      obtain ⟨converted, -, heq⟩ := Option.map_eq_some_iff.mp hconvert
      exact ⟨converted, heq.symm⟩
    · have hne := hformals f (List.mem_of_find?_eq_some hf)
      generalize f.type = type at hplain hne hconvert
      cases type <;> contradiction

namespace Builtin

/-- A built-in rule of valid constants answers everywhere. -/
theorem answers_of_buildNative {b : Builtin} {env : Environment} {arguments : List Argument}
    {i : Instance} (hs : (Registry.builtinFactory b).signature.Typed env.vars arguments)
    (harguments : ConstantAll arguments)
    (h : (Registry.builtinFactory b).signature.buildNative env b.id arguments = .ok i)
    (ctx : Context) : i.Answers ctx := by
  obtain ⟨native, body, hnative, hbody, hkind, rfl⟩ := Signature.buildNative_eq_ok.mp h
  obtain rfl : native = b := eq_of_id_eq (by simpa using List.find?_some hnative)
  have hoperands : ∀ o ∈ body.operands, o.Covered [] [] := by
    intro o ho
    obtain ⟨a, ha, hoffered⟩ := offered_of_build hbody o ho
    obtain ⟨value, hvalue⟩ := harguments a ha
    rw [hvalue] at hoffered
    rcases hoffered with rfl | hoffered
    · trivial
    · exact absurd hoffered List.not_mem_nil
  have hsettled : SettledAll arguments := by
    intro a ha
    obtain ⟨value, hvalue⟩ := harguments a ha
    rw [hvalue]
    trivial
  cases body with
  | test t =>
    obtain ⟨accepted, haccepted⟩ := settled_of_build hs hsettled hbody hoperands
    exact .inl ⟨accepted, congrArg Sum.inl (haccepted ctx)⟩
  | action a =>
    obtain ⟨value, hvalue⟩ := settled_action_of_build hkind.symm hs hbody hoperands
    exact .inr ⟨value, congrArg Sum.inr (hvalue ctx)⟩

/-- No built-in rule takes a replacer. -/
theorem type_ne_replacer (b : Builtin) :
    ∀ f ∈ (Registry.builtinFactory b).signature.formals, f.type ≠ .replacer := by
  cases b <;> decide

end Builtin

/-! ## Texts and cells -/

/-- A text for a slot, and a cell in which it may be found. -/
structure PlacedText where
  slot : String
  text : String
  cell? : Option CellRange

namespace PlacedText

/-- The text as an argument. -/
def early (t : PlacedText) : Argument := ⟨t.slot, .constant (.string t.text)⟩

/-- The cell of the text as an argument, or the text if it has no cell. -/
def late (t : PlacedText) : Argument :=
  ⟨t.slot, match t.cell? with
    | some target => .cell target
    | none => .constant (.string t.text)⟩

/-- Whether the cell of the text, if it has one, holds the text. -/
def FoundIn (ctx : Context) (t : PlacedText) : Prop :=
  ∀ target, t.cell? = some target → ctx.read target = .ok t.text

/-- Where a text is found in its cell, the cell may be put for it. -/
theorem standsFor {K : Context → Prop} {t : PlacedText} (h : ∀ ctx, K ctx → t.FoundIn ctx) :
    Bound.StandsFor K (fun _ given _ => given = .string) t.early t.late := by
  obtain ⟨slot, text, cell?⟩ := t
  refine ⟨rfl, ?_⟩
  cases cell? with
  | none => exact .same _
  | some target => exact .read rfl (fun ctx hctx => h ctx hctx target rfl) rfl

end PlacedText

namespace Workbench

variable {w : Workbench} {vars : Variables} {optimize : Bool} {i : Instance}

/-- A built-in rule that can be built of texts can be built with cells in the place of some of them.
Where the cells hold the texts, the two answer the same, and do not fail. -/
theorem Reachable.exists_outcome_eq_early (hw : w.Reachable) (b : Builtin) (texts : List PlacedText)
    (hi : (w.buildRegistered vars b.name optimize (texts.map PlacedText.early)).answer = .ok i)
    (optimize' : Bool) :
    ∃ i', (w.buildRegistered vars b.name optimize' (texts.map PlacedText.late)).answer = .ok i' ∧
      ∀ ctx, (∀ t ∈ texts, t.FoundIn ctx) → i'.outcome ctx = i.outcome ctx ∧ i.Answers ctx := by
  have hfound : w.registry.factory? b.name = some (Registry.builtinFactory b) :=
    hw.extends_withBuiltins.factory? _ _ b.factory?_withBuiltins
  simp only [hw.sound.buildRegistered_eq_ok hfound] at hi ⊢
  obtain ⟨valid, hvalid, hi⟩ := bind_eq_ok.mp hi
  have hs := Signature.typed_of_validate hvalid
  have hconstants : ConstantAll valid := by
    refine Signature.constantAll_of_validate b.type_ne_replacer (fun a ha => ?_) hvalid
    obtain ⟨t, -, rfl⟩ := List.mem_map.mp ha
    exact ⟨_, rfl⟩
  let K (ctx : Context) : Prop := ∀ t ∈ texts, t.FoundIn ctx
  have hstands : List.Forall₂ (Bound.StandsFor K fun _ given _ => given = .string)
      (texts.map PlacedText.early) (texts.map PlacedText.late) := by
    rw [List.forall₂_map_left_iff, List.forall₂_map_right_iff, List.forall₂_same]
    exact fun t ht => PlacedText.standsFor fun ctx hctx => hctx t ht
  obtain ⟨valid', hvalid', hvalids⟩ : ∃ valid', (Registry.builtinFactory b).signature.validate vars
      (texts.map PlacedText.late) = .ok valid' ∧
        List.Forall₂ (Bound.StandsFor K fun _ _ _ => True) valid valid' :=
    Signature.exists_validate hstands (fun text given _ f _ hgiven =>
      ⟨hgiven ▸ passesTo_of_string text f.type, trivial⟩) hvalid
  obtain ⟨i', hi', hagrees⟩ := Builtin.exists_buildNative hs hvalids hi
  exact ⟨i', bind_eq_ok.mpr ⟨valid', hvalid', hi'⟩, fun ctx hctx =>
    ⟨(hagrees.outcome ctx hctx).symm, Builtin.answers_of_buildNative hs hconstants hi ctx⟩⟩

/-- A pattern that stands in the cell at hand, and a text for it. -/
def patternTexts : List PlacedText := [⟨"pattern", "a.", some .any⟩, ⟨"input", "ab", none⟩]

/-- The pattern `a.` is compiled once for the one rule and on every run for the other, and both
accept or both refuse. -/
theorem exists_outcome_eq_patternTexts :
    ∃ i i', ((new .withBuiltins).buildRegistered .empty "Regex" true
        (patternTexts.map PlacedText.early)).answer = .ok i ∧
      ((new .withBuiltins).buildRegistered .empty "Regex" true
        (patternTexts.map PlacedText.late)).answer = .ok i' ∧
      i'.outcome ⟨fun _ => .ok "a.", .empty, ⟨"S", 0, 0⟩⟩ =
        i.outcome ⟨fun _ => .ok "a.", .empty, ⟨"S", 0, 0⟩⟩ := by
  have hreachable : (new .withBuiltins).Reachable := ⟨[], rfl⟩
  have hbuilt : ∃ i, ((new .withBuiltins).buildRegistered .empty "Regex" true
      (patternTexts.map PlacedText.early)).answer = .ok i := ⟨_, rfl⟩
  obtain ⟨i, hi⟩ := hbuilt
  obtain ⟨i', hi', houtcome⟩ := hreachable.exists_outcome_eq_early .regex patternTexts hi true
  refine ⟨i, i', hi, hi', (houtcome _ fun t ht target htarget => ?_).1⟩
  simp only [patternTexts, List.mem_cons, List.not_mem_nil, or_false] at ht
  rcases ht with rfl | rfl
  · rfl
  · contradiction

end Workbench

end GridAudit
