import GridAudit.Factory.Instantiate

/-!
# Keeping the rules of closed calls

When trees are optimized, the rule of a call without variables below it is kept at its place, and
the next evaluation of the place takes it from there. A place is a way from the root of a tree; the
tree is that of a factory, registered or not yet, or a node that is evaluated by itself. Since a
factory is shared by all trees that call it, so are the rules kept in its tree. Rules that were kept
stay when an evaluation fails later on, and nothing is kept for a call that fails.
-/

namespace GridAudit

/-- Whose tree a node is part of. Trees that have no name yet go by numbers. -/
inductive TreeOwner where
  | registered (name : String)
  | pending (handle : Nat)
  | node (handle : Nat)
  deriving DecidableEq

/-- The place of a node: the owner of the tree, and the numbers of the node and the nodes above it
among their siblings, up to the root. -/
structure Place where
  owner : TreeOwner
  path : List Nat
  deriving DecidableEq

namespace Place

/-- The place of the root of a tree. -/
def root (owner : TreeOwner) : Place := ⟨owner, []⟩

/-- The place of a child of the node at a place. -/
def child (p : Place) (i : Nat) : Place := ⟨p.owner, i :: p.path⟩

end Place

/-- The rules kept so far, each with its place. -/
structure Folds where
  kept : List (Place × Instance)

namespace Folds

/-- No rules. -/
def empty : Folds := ⟨[]⟩

/-- The rule kept at a place. -/
def find? (folds : Folds) (p : Place) : Option Instance :=
  (folds.kept.find? (·.1 = p)).map Prod.snd

/-- Keep a rule at a place, unless one is kept there; the rule that is kept then is the answer. -/
def getOrKeep (folds : Folds) (p : Place) (rule : Instance) : Instance × Folds :=
  match folds.find? p with
  | some kept => (kept, folds)
  | none => (rule, ⟨folds.kept ++ [(p, rule)]⟩)

/-- Without the rules kept in a tree, which is gone. -/
def drop (folds : Folds) (owner : TreeOwner) : Folds :=
  ⟨folds.kept.filter fun k => k.1.owner ≠ owner⟩

/-- The rules kept in a tree go with it to another owner. -/
def move (folds : Folds) (owner owner' : TreeOwner) : Folds :=
  ⟨folds.kept.map fun k => if k.1.owner = owner then (⟨owner', k.1.path⟩, k.2) else k⟩

end Folds

/-- An evaluation that may keep rules, also when it fails. -/
abbrev Folding := ExceptT InstantiationError (StateM Folds)

/-- The outcome of an evaluation from the rules kept so far, and the rules kept then. -/
def Folding.exec {α : Type} (x : Folding α) (folds : Folds) :
    Except InstantiationError α × Folds :=
  x.run.run folds

/-- The rule of a place: when it is to be kept, the one kept there before, if any. -/
def Folding.keeping (keep : Bool) (p : Place) (build : Folding Instance) : Folding Instance := do
  if keep then
    match (← get).find? p with
    | some kept => return kept
    | none => do
      let rule ← build
      modifyGet fun folds => folds.getOrKeep p rule
  else build

namespace Node

mutual

/-- What the node at a place yields for its slot, given the arguments of the factory around the
tree. -/
def evaluateKeeping (env : Environment) (optimize : Bool) (p : Place) (arguments : List Argument) :
    Node → Folding (List Argument)
  | .constant slot value => return [⟨slot, .constant value⟩]
  | .cell slot target => return [⟨slot, .cell target⟩]
  | .variable slot argument =>
    return (Bound.valuesOf argument arguments).map fun value => ⟨slot, value⟩
  | .call slot factory children => do
    let keep := optimize && allClosed children
    let rule ← Folding.keeping keep p do
      let given := if keep then [] else arguments
      let bound ← evaluateAllKeeping env optimize p 0 given children
      instantiateKeeping env optimize (.registered factory.name) factory bound
    return [⟨slot, rule.toParam⟩]

/-- What the children of the node at a place yield, in order, from the child of a number on. -/
def evaluateAllKeeping (env : Environment) (optimize : Bool) (p : Place) (i : Nat)
    (arguments : List Argument) : List Node → Folding (List Argument)
  | [] => return []
  | n :: rest => do
    let first ← n.evaluateKeeping env optimize (p.child i) arguments
    let more ← evaluateAllKeeping env optimize p (i + 1) arguments rest
    return first ++ more

/-- The rule a factory builds from arguments, where its tree has an owner. -/
def instantiateKeeping (env : Environment) (optimize : Bool) (owner : TreeOwner) :
    FactoryOf Node → List Argument → Folding Instance
  | ⟨signature, body⟩, arguments => do
    let arguments ← signature.validate env.vars arguments
    buildKeeping env optimize owner signature arguments body

/-- The rule a body builds from valid arguments, where its tree has an owner. -/
def buildKeeping (env : Environment) (optimize : Bool) (owner : TreeOwner) (signature : Signature)
    (arguments : List Argument) : FactoryBody Node → Folding Instance
  | .native id => signature.buildNative env id arguments
  | .tree root => do
    let yielded ← root.evaluateKeeping env optimize (.root owner) arguments
    signature.adopt env arguments yielded

end

end Node

end GridAudit
