import GridAudit.Factory.Folding
import GridAudit.Proofs.Closed
import GridAudit.Registry

/-!
# Kept rules are those of plain evaluation

Rules kept in trees are sound when each is what the closed call at its place always builds.
Evaluation that keeps rules, started from sound ones, has the outcome of plain evaluation and leaves
sound rules behind, also when it fails. This needs every call to hold the factory that is registered
under its name, whose tree other calls share.
-/

namespace GridAudit

/-! ## Nodes and their places -/

/-- The tree of a factory, unless its body is native. -/
def FactoryOf.tree? {α : Type} (f : FactoryOf α) : Option α :=
  match f.body with
  | .native _ => none
  | .tree root => some root

namespace Node

/-- The node at the end of the way up to a root. -/
def at? (root : Node) : List Nat → Option Node
  | [] => some root
  | i :: path => (root.at? path).bind fun n => n.children[i]?

/-- A call that always builds a rule, whatever arguments it is given and whatever values variables
have. -/
def Always (natives : List Builtin) (n : Node) (rule : Instance) : Prop :=
  ∀ vars arguments, n.evaluate ⟨natives, vars⟩ false arguments = .ok [⟨n.slot, rule.toParam⟩]

mutual

/-- A tree whose calls hold the factories that are registered under their names. -/
def Linked (r : Registry) : Node → Prop
  | .call _ factory children => r.factory? factory.name = some factory ∧ LinkedAll r children
  | _ => True

/-- Trees whose calls hold the factories that are registered under their names. -/
def LinkedAll (r : Registry) : List Node → Prop
  | [] => True
  | n :: rest => n.Linked r ∧ LinkedAll r rest

end

end Node

/-- Which tree each owner has. -/
abbrev Trees := TreeOwner → Option Node

/-- The node at a place. -/
def Trees.node? (trees : Trees) (p : Place) : Option Node :=
  (trees p.owner).bind fun root => root.at? p.path

/-- The child of the node at a place is at the place of the child. -/
theorem Trees.node?_child {trees : Trees} {p : Place} {n child : Node} {i : Nat}
    (hn : trees.node? p = some n) (hchild : n.children[i]? = some child) :
    trees.node? (p.child i) = some child := by
  have hat : (trees p.owner).bind (fun root => (root.at? p.path).bind fun n => n.children[i]?) =
      (trees.node? p).bind fun n => n.children[i]? := (Option.bind_assoc ..).symm
  rw [hn, Option.bind_some, hchild] at hat
  exact hat

/-- A factory whose tree has an owner and only calls registered factories. -/
def Trees.Own (trees : Trees) (r : Registry) (owner : TreeOwner) (f : Factory) : Prop :=
  ∀ root, f.tree? = some root → trees owner = some root ∧ root.Linked r

/-- The registered factories have their trees under their names. -/
def Trees.Shared (trees : Trees) (r : Registry) : Prop :=
  ∀ f, r.factory? f.name = some f → trees.Own r (.registered f.name) f

/-- Every kept rule is what the node at its place always builds. -/
def Folds.Sound (natives : List Builtin) (trees : Trees) (folds : Folds) : Prop :=
  ∀ k ∈ folds.kept, ∃ n, trees.node? k.1 = some n ∧ n.Always natives k.2

namespace Folding

variable {α β : Type} {sound : Folds → Prop}

/-- An evaluation that, from sound rules, has a given outcome and leaves sound rules behind. -/
def Agrees (sound : Folds → Prop) (x : Folding α) (result : Except InstantiationError α) : Prop :=
  ∀ folds, sound folds → (x.exec folds).1 = result ∧ sound (x.exec folds).2

/-- An evaluation that keeps nothing agrees with its outcome. -/
theorem agrees_lift (result : Except InstantiationError α) :
    Agrees sound (liftM result) result :=
  fun _ h => ⟨rfl, h⟩

/-- A value agrees with itself. -/
theorem agrees_pure (a : α) : Agrees sound (pure a) (.ok a) :=
  fun _ h => ⟨rfl, h⟩

/-- A sequence of two evaluations goes on from the rules that the first leaves, unless it fails. -/
theorem exec_bind (x : Folding α) (f : α → Folding β) (folds : Folds) :
    (x >>= f).exec folds = match x.exec folds with
      | (.ok a, folds') => (f a).exec folds'
      | (.error e, folds') => (.error e, folds') := by
  change (ExceptT.bindCont f (x.exec folds).1) (x.exec folds).2 = _
  obtain ⟨result, folds'⟩ := x.exec folds
  cases result <;> rfl

/-- A sequence of two evaluations agrees with the sequence of what these agree with. -/
theorem Agrees.bind {x : Folding α} {f : α → Folding β} {result : Except InstantiationError α}
    {next : α → Except InstantiationError β} (hx : Agrees sound x result)
    (hf : ∀ a, Agrees sound (f a) (next a)) : Agrees sound (x >>= f) (result >>= next) := by
  intro folds h
  obtain ⟨hresult, hsound⟩ := hx folds h
  rw [exec_bind]
  cases hexec : x.exec folds with
  | mk first folds' =>
    rw [hexec] at hresult hsound
    subst hresult
    cases first with
    | error e => exact ⟨rfl, hsound⟩
    | ok a => exact hf a folds' hsound

end Folding

namespace Folds

variable {natives : List Builtin} {trees : Trees} {folds : Folds} {p : Place} {n : Node}
  {rule : Instance}

/-- A rule that is found was kept. -/
theorem mem_of_find? (h : folds.find? p = some rule) : (p, rule) ∈ folds.kept := by
  obtain ⟨⟨p', rule'⟩, hfound, rfl⟩ := Option.map_eq_some_iff.mp h
  obtain rfl : p' = p := by simpa using List.find?_some hfound
  exact List.mem_of_find?_eq_some hfound

/-- A sound rule that is found is what the node at its place always builds. -/
theorem Sound.always_of_find? (h : folds.Sound natives trees) (hn : trees.node? p = some n)
    (hrule : folds.find? p = some rule) : n.Always natives rule := by
  obtain ⟨n', hn', halways⟩ := h _ (mem_of_find? hrule)
  obtain rfl : n' = n := Option.some.inj (hn'.symm.trans hn)
  exact halways

/-- Keeping what the node at a place always builds keeps rules sound. -/
theorem Sound.getOrKeep (h : folds.Sound natives trees) (hn : trees.node? p = some n)
    (hrule : n.Always natives rule) : (folds.getOrKeep p rule).2.Sound natives trees := by
  unfold Folds.getOrKeep
  split
  · exact h
  · intro k hk
    rcases List.mem_append.mp hk with hk | hk
    · exact h k hk
    · obtain rfl := List.mem_singleton.mp hk
      exact ⟨n, hn, hrule⟩

end Folds

/-- A rule as an argument determines the rule. -/
theorem Instance.toParam_inj {i j : Instance} (h : i.toParam = j.toParam) : i = j := by
  cases i <;> cases j <;> simp_all [toParam]

/-- A call always builds one rule at most. -/
theorem Node.Always.unique {natives : List Builtin} {n : Node} {rule rule' : Instance}
    (h : n.Always natives rule) (h' : n.Always natives rule') : rule = rule' := by
  have hyielded := Except.ok.inj ((h .empty []).symm.trans (h' .empty []))
  simp only [List.cons.injEq, Bound.mk.injEq, true_and, and_true] at hyielded
  exact Instance.toParam_inj hyielded

namespace Folding

variable {natives : List Builtin} {trees : Trees} {p : Place} {n : Node} {keep : Bool}
  {build : Folding Instance} {result : Except InstantiationError Instance}

/-- A rule to be kept is found at its place, or built and kept there. -/
theorem exec_keeping (p : Place) (build : Folding Instance) (folds : Folds) :
    (keeping true p build).exec folds = match folds.find? p with
      | some kept => (.ok kept, folds)
      | none => match build.exec folds with
        | (.ok rule, folds') => (.ok (folds'.getOrKeep p rule).1, (folds'.getOrKeep p rule).2)
        | (.error e, folds') => (.error e, folds') := by
  have hget : (get : Folding Folds).exec folds = (.ok folds, folds) := rfl
  simp only [keeping, ↓reduceIte, exec_bind, hget]
  cases folds.find? p with
  | some kept => rfl
  | none =>
    simp only [exec_bind]
    rcases build.exec folds with ⟨e | rule, folds'⟩ <;> rfl

/-- The rule of a place is the built one, whether it was kept before or is built now, when what is
built is what the node at the place always builds. -/
theorem agrees_keeping (hbuild : Agrees (Folds.Sound natives trees) build result)
    (hn : trees.node? p = some n)
    (hresult : keep → ∀ rule, result = .ok rule ↔ n.Always natives rule) :
    Agrees (Folds.Sound natives trees) (keeping keep p build) result := by
  cases keep with
  | false => exact hbuild
  | true =>
    replace hresult := hresult rfl
    intro folds h
    rw [exec_keeping]
    cases hfound : folds.find? p with
    | some kept => exact ⟨((hresult kept).mpr (h.always_of_find? hn hfound)).symm, h⟩
    | none =>
      obtain ⟨houtcome, hsound⟩ := hbuild folds h
      cases hbuilt : build.exec folds with
      | mk first folds' =>
        rw [hbuilt] at houtcome hsound
        subst houtcome
        cases first with
        | error e => exact ⟨rfl, hsound⟩
        | ok rule =>
          have halways := (hresult rule).mp rfl
          refine ⟨congrArg Except.ok ?_, hsound.getOrKeep hn halways⟩
          unfold Folds.getOrKeep
          split
          · next kept hkept => exact (hsound.always_of_find? hn hkept).unique halways
          · rfl

end Folding

/-! ## Evaluation -/

namespace Node

variable {natives : List Builtin} {trees : Trees} {r : Registry} {vars : Variables}
  {optimize : Bool}

/-- A call yields the rule that its factory builds from what its children yield. -/
theorem evaluate_call (env : Environment) (slot : String) (factory : Factory) (children : List Node)
    (arguments : List Argument) :
    (Node.call slot factory children).evaluate env false arguments =
      (evaluateAll env false arguments children >>= instantiate env false factory) >>=
        fun rule => .ok [⟨slot, rule.toParam⟩] := by
  simp only [evaluate, Bool.false_and, Bool.false_eq_true, ↓reduceIte]
  cases evaluateAll env false arguments children <;> rfl

/-- What a call yields is one rule. -/
theorem evaluate_call_eq_ok {env : Environment} {slot : String} {factory : Factory}
    {children : List Node} {arguments yielded : List Argument} :
    (Node.call slot factory children).evaluate env false arguments = .ok yielded ↔
      ∃ bound rule, evaluateAll env false arguments children = .ok bound ∧
        instantiate env false factory bound = .ok rule ∧ yielded = [⟨slot, rule.toParam⟩] := by
  rw [evaluate_call]
  constructor
  · intro h
    obtain ⟨rule, hrule, h⟩ := bind_eq_ok.mp h
    obtain ⟨bound, hbound, hrule⟩ := bind_eq_ok.mp hrule
    exact ⟨bound, rule, hbound, hrule, (Except.ok.inj h).symm⟩
  · rintro ⟨bound, rule, hbound, hrule, rfl⟩
    rw [hbound]
    exact bind_eq_ok.mpr ⟨rule, hrule, rfl⟩

/-- A closed call always builds what it builds once. -/
theorem eq_ok_iff_always {slot : String} {factory : Factory} {children : List Node}
    (h : allClosed children) (vars : Variables) (arguments : List Argument) (rule : Instance) :
    (evaluateAll ⟨natives, vars⟩ false arguments children >>=
        instantiate ⟨natives, vars⟩ false factory) = .ok rule ↔
      (Node.call slot factory children).Always natives rule := by
  have hclosed : (Node.call slot factory children).isClosed := by rwa [isClosed]
  constructor
  · intro hrule vars' arguments'
    rw [evaluate_closed_eq hclosed vars' vars arguments' arguments, evaluate_call, hrule]
    rfl
  · intro halways
    have hyielded := halways vars arguments
    obtain ⟨bound, rule', hbound, hrule', hvalue⟩ := evaluate_call_eq_ok.mp hyielded
    simp only [List.cons.injEq, Bound.mk.injEq, and_true] at hvalue
    rw [Instance.toParam_inj hvalue.2]
    exact bind_eq_ok.mpr ⟨bound, hbound, hrule'⟩

mutual

/-- A node evaluated with rules kept yields what it yields plainly. -/
theorem evaluateKeeping_agrees (hr : trees.Shared r) (n : Node) {p : Place}
    (hn : trees.node? p = some n) (hlinked : n.Linked r) (arguments : List Argument) :
    Folding.Agrees (Folds.Sound natives trees)
      (n.evaluateKeeping ⟨natives, vars⟩ optimize p arguments)
      (n.evaluate ⟨natives, vars⟩ false arguments) := by
  cases n with
  | constant | cell | «variable» => exact Folding.agrees_pure _
  | call slot factory children =>
    obtain ⟨hfactory, hchildren⟩ := hlinked
    -- A call that is kept is closed, so that it needs no arguments.
    have hgiven : evaluateAll ⟨natives, vars⟩ false
        (if optimize && allClosed children then [] else arguments) children =
          evaluateAll ⟨natives, vars⟩ false arguments children := by
      split
      · next h => exact evaluateAll_arguments_eq children (Bool.and_eq_true_iff.mp h).2 _ _
      · rfl
    have hplaces (j : Nat) (child : Node) (hchild : children[j]? = some child) :
        trees.node? (p.child (0 + j)) = some child := by
      rw [Nat.zero_add]
      exact Trees.node?_child hn hchild
    have hbuild := (evaluateAllKeeping_agrees hr children hplaces hchildren
      (if optimize && allClosed children then [] else arguments)).bind fun bound =>
        instantiateKeeping_agrees hr factory (hr factory hfactory) bound
    rw [hgiven] at hbuild
    rw [evaluate_call]
    refine (Folding.agrees_keeping hbuild hn fun hkeep rule => ?_).bind fun rule =>
      Folding.agrees_pure _
    exact eq_ok_iff_always (Bool.and_eq_true_iff.mp hkeep).2 vars arguments rule

/-- Children evaluated with rules kept yield what they yield plainly. -/
theorem evaluateAllKeeping_agrees (hr : trees.Shared r) (nodes : List Node) {p : Place} {i : Nat}
    (hnodes : ∀ j child, nodes[j]? = some child → trees.node? (p.child (i + j)) = some child)
    (hlinked : LinkedAll r nodes) (arguments : List Argument) :
    Folding.Agrees (Folds.Sound natives trees)
      (evaluateAllKeeping ⟨natives, vars⟩ optimize p i arguments nodes)
      (evaluateAll ⟨natives, vars⟩ false arguments nodes) := by
  cases nodes with
  | nil => exact Folding.agrees_pure _
  | cons n rest =>
    have hrest (j : Nat) (child : Node) (hchild : rest[j]? = some child) :
        trees.node? (p.child (i + 1 + j)) = some child := by
      rw [Nat.add_assoc, Nat.add_comm 1 j]
      exact hnodes (j + 1) child hchild
    refine (evaluateKeeping_agrees hr n (hnodes 0 n rfl) hlinked.1 arguments).bind fun first => ?_
    refine (evaluateAllKeeping_agrees hr rest hrest hlinked.2 arguments).bind fun more => ?_
    exact Folding.agrees_pure _

/-- A factory that keeps rules builds the rule it builds plainly. -/
theorem instantiateKeeping_agrees (hr : trees.Shared r) (f : FactoryOf Node) {owner : TreeOwner}
    (hown : trees.Own r owner f) (arguments : List Argument) :
    Folding.Agrees (Folds.Sound natives trees)
      (instantiateKeeping ⟨natives, vars⟩ optimize owner f arguments)
      (instantiate ⟨natives, vars⟩ false f arguments) := by
  obtain ⟨signature, body⟩ := f
  exact (Folding.agrees_lift _).bind fun valid => buildKeeping_agrees hr body hown valid

/-- A body that keeps rules builds the rule it builds plainly. -/
theorem buildKeeping_agrees (hr : trees.Shared r) (body : FactoryBody Node)
    {signature : Signature} {owner : TreeOwner} (hown : trees.Own r owner ⟨signature, body⟩)
    (arguments : List Argument) :
    Folding.Agrees (Folds.Sound natives trees)
      (buildKeeping ⟨natives, vars⟩ optimize owner signature arguments body)
      (build ⟨natives, vars⟩ false signature arguments body) := by
  cases body with
  | native id => exact Folding.agrees_lift _
  | tree root =>
    obtain ⟨htree, hlinked⟩ := hown root rfl
    have hroot : trees.node? (.root owner) = some root := by
      rw [Trees.node?, Place.root, htree]
      rfl
    refine (evaluateKeeping_agrees hr root hroot hlinked arguments).bind fun yielded => ?_
    exact Folding.agrees_lift _

end

end Node

end GridAudit
