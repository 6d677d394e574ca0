import GridAudit.Factory.Instantiate
import GridAudit.Proofs.Validation

/-!
# What closed nodes depend on

A closed node yields the same whatever arguments the factory around its tree is given, and whatever
values variables have, since no variable is among the arguments it passes on. So one evaluation of a
closed call serves every caller, and it does not matter whether trees are optimized.
-/

namespace GridAudit

/-! ## Arguments that are no variables -/

/-- An argument that is no variable, though a rule among its parts may hold one. -/
def Param.Fixed : Param → Prop
  | .variable _ => False
  | _ => True

/-- Arguments none of which is a variable. -/
def FixedAll (arguments : List Argument) : Prop := ∀ a ∈ arguments, a.value.Fixed

namespace Param

variable {p q : Param} {vars : Variables} {type : ValueType}

/-- A rule is no variable. -/
theorem fixed_toParam (i : Instance) : i.toParam.Fixed := by
  cases i <;> trivial

/-- The type of an argument that is no variable does not hang on values. -/
theorem Fixed.type_eq (h : p.Fixed) (vars vars' : Variables) : p.type vars = p.type vars' := by
  cases p with
  | «variable» v => exact h.elim
  | constant | cell | matcher | replacer => rfl

/-- An argument that is no variable converts alike whatever values variables have. -/
theorem Fixed.convert_eq (h : p.Fixed) (vars vars' : Variables) :
    p.convert vars type = p.convert vars' type := by
  cases p with
  | «variable» v => exact h.elim
  | constant | cell | matcher | replacer => cases type <;> rfl

/-- An argument that is no variable converts to none. -/
theorem Fixed.of_convert (h : p.Fixed) (hq : p.convert vars type = some q) : q.Fixed := by
  have hplain (hq : p.convertPlain vars type = some q) : q.Fixed := by
    cases p with
    | «variable» v => exact h.elim
    | constant value =>
      obtain ⟨c, -, rfl⟩ := Option.map_eq_some_iff.mp hq
      trivial
    | cell target =>
      obtain rfl : Param.cell target = q := Option.some.inj hq
      trivial
    | matcher | replacer => simp [convertPlain] at hq
  cases type with
  | string | int | real | char => exact hplain hq
  | matcher =>
    cases p with
    | matcher m =>
      obtain rfl : Param.matcher m = q := Option.some.inj hq
      trivial
    | constant | «variable» | cell | replacer => simp [Param.convert] at hq
  | replacer =>
    obtain rfl : Param.replacer p.asReplacer = q := Option.some.inj hq
    trivial

end Param

namespace Signature

variable {s : Signature} {vars : Variables} {arguments valid yielded : List Argument}

/-- An argument that is no variable is coerced alike whatever values variables have. -/
theorem coerce_eq {a : Argument} (h : a.value.Fixed) (vars vars' : Variables) :
    s.coerce vars a = s.coerce vars' a := by
  simp only [coerce, h.convert_eq vars vars', h.type_eq vars vars']

/-- Arguments that are no variables are coerced alike whatever values variables have. -/
theorem coerceAll_eq (h : FixedAll arguments) (vars vars' : Variables) :
    s.coerceAll vars arguments = s.coerceAll vars' arguments := by
  induction arguments with
  | nil => rfl
  | cons a rest ih =>
    obtain ⟨ha, hrest⟩ := List.forall_mem_cons.mp h
    rw [coerceAll, coerceAll, coerce_eq ha vars vars', ih hrest]

/-- Arguments that are no variables are validated alike whatever values variables have. -/
theorem validate_eq (h : FixedAll arguments) (vars vars' : Variables) :
    s.validate vars arguments = s.validate vars' arguments := by
  rw [validate, validate, coerceAll_eq h vars vars']

/-- Valid arguments are no variables when those given were none. -/
theorem fixedAll_of_validate (h : FixedAll arguments)
    (hvalid : s.validate vars arguments = .ok valid) : FixedAll valid :=
  forall_value_of_validate (fun _ _ _ hp hq => hp.of_convert hq) h hvalid

/-- The rule at the root of a tree is adopted alike when it is no variable. -/
theorem adopt_eq {natives : List Builtin} (h : FixedAll yielded) (vars vars' : Variables) :
    s.adopt ⟨natives, vars⟩ arguments yielded = s.adopt ⟨natives, vars'⟩ arguments yielded := by
  cases yielded with
  | nil => rfl
  | cons root rest =>
    have hroot := h root List.mem_cons_self
    cases rest with
    | nil => simp only [adopt, hroot.convert_eq vars vars', hroot.type_eq vars vars']
    | cons => rfl

end Signature

/-! ## Nodes given no variables -/

namespace Node

variable {natives : List Builtin} {env : Environment} {optimize : Bool}

/-- A node that is given no variables yields none. -/
theorem fixedAll_of_evaluate {n : Node} {arguments yielded : List Argument}
    (h : FixedAll arguments) (hyielded : n.evaluate env optimize arguments = .ok yielded) :
    FixedAll yielded := by
  cases n with
  | constant slot value =>
    obtain rfl := Except.ok.inj hyielded
    exact List.forall_mem_singleton.mpr trivial
  | cell slot target =>
    obtain rfl := Except.ok.inj hyielded
    exact List.forall_mem_singleton.mpr trivial
  | «variable» slot argument =>
    obtain rfl := Except.ok.inj hyielded
    exact Bound.forall_value_of_valuesOf h slot
  | call slot factory children =>
    obtain ⟨bound, -, hyielded⟩ := bind_eq_ok.mp hyielded
    obtain ⟨rule, -, hyielded⟩ := bind_eq_ok.mp hyielded
    obtain rfl := Except.ok.inj hyielded
    exact List.forall_mem_singleton.mpr (Param.fixed_toParam rule)

/-- Nodes that are given no variables yield none. -/
theorem fixedAll_of_evaluateAll {nodes : List Node} {arguments yielded : List Argument}
    (h : FixedAll arguments) (hyielded : evaluateAll env optimize arguments nodes = .ok yielded) :
    FixedAll yielded := by
  induction nodes generalizing yielded with
  | nil =>
    obtain rfl := Except.ok.inj hyielded
    exact List.forall_mem_nil _
  | cons n rest ih =>
    obtain ⟨first, more, hfirst, hmore, rfl⟩ := bind_bind_eq_ok.mp hyielded
    exact List.forall_mem_append.mpr ⟨fixedAll_of_evaluate h hfirst, ih hmore⟩

mutual

/-- A node that is given no variables yields the same whatever values variables have. -/
theorem evaluate_vars_eq (n : Node) {arguments : List Argument} (h : FixedAll arguments)
    (vars vars' : Variables) :
    n.evaluate ⟨natives, vars⟩ optimize arguments =
      n.evaluate ⟨natives, vars'⟩ optimize arguments := by
  cases n with
  | constant | cell | «variable» => rfl
  | call slot factory children =>
    have hgiven : FixedAll (if optimize && allClosed children then [] else arguments) := by
      split
      · exact List.forall_mem_nil _
      · exact h
    simp only [evaluate, evaluateAll_vars_eq children hgiven vars vars']
    refine bind_congr_ok rfl fun bound hbound => ?_
    rw [instantiate_vars_eq factory (fixedAll_of_evaluateAll hgiven hbound) vars vars']

/-- Nodes that are given no variables yield the same whatever values variables have. -/
theorem evaluateAll_vars_eq (nodes : List Node) {arguments : List Argument} (h : FixedAll arguments)
    (vars vars' : Variables) :
    evaluateAll ⟨natives, vars⟩ optimize arguments nodes =
      evaluateAll ⟨natives, vars'⟩ optimize arguments nodes := by
  cases nodes with
  | nil => rfl
  | cons n rest =>
    simp only [evaluateAll, evaluate_vars_eq n h vars vars', evaluateAll_vars_eq rest h vars vars']

/-- A factory that is given no variables builds the same rule whatever values variables have. -/
theorem instantiate_vars_eq (f : FactoryOf Node) {arguments : List Argument}
    (h : FixedAll arguments) (vars vars' : Variables) :
    instantiate ⟨natives, vars⟩ optimize f arguments =
      instantiate ⟨natives, vars'⟩ optimize f arguments := by
  obtain ⟨signature, body⟩ := f
  simp only [instantiate, Signature.validate_eq h vars vars']
  refine bind_congr_ok rfl fun valid hvalid => ?_
  exact build_vars_eq body (Signature.fixedAll_of_validate h hvalid) vars vars'

/-- A body that is given no variables builds the same rule whatever values variables have. -/
theorem build_vars_eq (body : FactoryBody Node) {signature : Signature} {arguments : List Argument}
    (h : FixedAll arguments) (vars vars' : Variables) :
    build ⟨natives, vars⟩ optimize signature arguments body =
      build ⟨natives, vars'⟩ optimize signature arguments body := by
  cases body with
  | native id => rfl
  | tree root =>
    simp only [build, evaluate_vars_eq root h vars vars']
    refine bind_congr_ok rfl fun yielded hyielded => ?_
    exact Signature.adopt_eq (fixedAll_of_evaluate h hyielded) vars vars'

end

/-! ## Closed nodes -/

mutual

/-- A closed node yields the same whatever arguments it is given. -/
theorem evaluate_arguments_eq (n : Node) (h : n.isClosed) (arguments arguments' : List Argument) :
    n.evaluate env optimize arguments = n.evaluate env optimize arguments' := by
  cases n with
  | constant | cell => rfl
  | «variable» => simp [isClosed] at h
  | call slot factory children =>
    rw [isClosed] at h
    have hchildren := evaluateAll_arguments_eq children h
      (if optimize && allClosed children then [] else arguments)
      (if optimize && allClosed children then [] else arguments')
    simp only [evaluate, hchildren]

/-- Closed nodes yield the same whatever arguments they are given. -/
theorem evaluateAll_arguments_eq (nodes : List Node) (h : allClosed nodes)
    (arguments arguments' : List Argument) :
    evaluateAll env optimize arguments nodes = evaluateAll env optimize arguments' nodes := by
  cases nodes with
  | nil => rfl
  | cons n rest =>
    rw [allClosed, Bool.and_eq_true] at h
    simp only [evaluateAll, evaluate_arguments_eq n h.1 arguments arguments',
      evaluateAll_arguments_eq rest h.2 arguments arguments']

end

/-- A closed node yields the same whatever arguments it is given and whatever values variables
have. -/
theorem evaluate_closed_eq {n : Node} (h : n.isClosed) (vars vars' : Variables)
    (arguments arguments' : List Argument) :
    n.evaluate ⟨natives, vars⟩ optimize arguments =
      n.evaluate ⟨natives, vars'⟩ optimize arguments' := by
  calc n.evaluate ⟨natives, vars⟩ optimize arguments
      = n.evaluate ⟨natives, vars⟩ optimize [] := evaluate_arguments_eq n h arguments []
    _ = n.evaluate ⟨natives, vars'⟩ optimize [] :=
      evaluate_vars_eq n (List.forall_mem_nil _) vars vars'
    _ = n.evaluate ⟨natives, vars'⟩ optimize arguments' := evaluate_arguments_eq n h [] arguments'

/-! ## Optimization -/

mutual

/-- A node yields the same whether trees are optimized or not. -/
theorem evaluate_optimize_eq (n : Node) (optimize : Bool) (arguments : List Argument) :
    n.evaluate env optimize arguments = n.evaluate env false arguments := by
  cases n with
  | constant | cell | «variable» => rfl
  | call slot factory children =>
    have hchildren : evaluateAll env false
        (if optimize && allClosed children then [] else arguments) children =
          evaluateAll env false arguments children := by
      split
      · next h => exact evaluateAll_arguments_eq children (Bool.and_eq_true_iff.mp h).2 _ _
      · rfl
    simp only [evaluate, evaluateAll_optimize_eq children optimize, hchildren, Bool.false_and,
      Bool.false_eq_true, ↓reduceIte]
    refine bind_congr_ok rfl fun bound _ => ?_
    rw [instantiate_optimize_eq factory optimize]

/-- Nodes yield the same whether trees are optimized or not. -/
theorem evaluateAll_optimize_eq (nodes : List Node) (optimize : Bool) (arguments : List Argument) :
    evaluateAll env optimize arguments nodes = evaluateAll env false arguments nodes := by
  cases nodes with
  | nil => rfl
  | cons n rest =>
    simp only [evaluateAll, evaluate_optimize_eq n optimize, evaluateAll_optimize_eq rest optimize]

/-- A factory builds the same rule whether trees are optimized or not. -/
theorem instantiate_optimize_eq (f : FactoryOf Node) (optimize : Bool) (arguments : List Argument) :
    instantiate env optimize f arguments = instantiate env false f arguments := by
  obtain ⟨signature, body⟩ := f
  simp only [instantiate, build_optimize_eq body optimize]

/-- A body builds the same rule whether trees are optimized or not. -/
theorem build_optimize_eq (body : FactoryBody Node) (optimize : Bool) {signature : Signature}
    {arguments : List Argument} :
    build env optimize signature arguments body = build env false signature arguments body := by
  cases body with
  | native id => rfl
  | tree root => simp only [build, evaluate_optimize_eq root optimize]

end

end Node

end GridAudit
