import GridAudit.Rule.Builtin

/-!
# Factories and rule trees

A factory builds rules of one kind from arguments for its formals. Its body is either bound to a
built-in body by an identifier, or a tree whose nodes stand for values, for the arguments of the
factory, and for rules that other factories build. The factories a tree calls are held in it, so a
tree is finite and no factory can call itself.
-/

namespace GridAudit

/-- What a factory declares. -/
structure Signature where
  name : String
  description : String
  output : RuleKind
  formals : List Formal

/-- The formal of a name. -/
def Signature.formal? (s : Signature) (name : String) : Option Formal := Formal.find? s.formals name

/-- How a factory builds its rules; `α` is the type of tree nodes. -/
inductive FactoryBody (α : Type) where
  | native (id : String)
  | tree (root : α)

/-- A factory over trees with nodes of type `α`. -/
structure FactoryOf (α : Type) where
  signature : Signature
  body : FactoryBody α

/-- A node of a rule tree, which feeds a slot of the node above it. -/
inductive Node where
  | constant (slot : String) (value : Constant)
  | cell (slot : String) (target : CellRange)
  /-- Every argument of a name that the factory around the tree was given. -/
  | variable (slot argument : String)
  /-- The rule that a factory builds from what the children yield. -/
  | call (slot : String) (factory : FactoryOf Node) (children : List Node)

/-- A factory. -/
abbrev Factory := FactoryOf Node

namespace FactoryOf

variable {α : Type}

/-- A factory with normalized formals. -/
def define (name description : String) (output : RuleKind) (formals : List Formal)
    (body : FactoryBody α) : FactoryOf α :=
  ⟨⟨name, description, output, Formal.normalize formals⟩, body⟩

/-- The name of a factory. -/
def name (f : FactoryOf α) : String := f.signature.name

/-- The kind of rules a factory builds. -/
def output (f : FactoryOf α) : RuleKind := f.signature.output

/-- The formals of a factory. -/
def formals (f : FactoryOf α) : List Formal := f.signature.formals

/-- The formal of a name. -/
def formal? (f : FactoryOf α) (name : String) : Option Formal := f.signature.formal? name

end FactoryOf

namespace Node

/-- The slot a node feeds. -/
def slot : Node → String
  | .constant slot _ | .cell slot _ | .variable slot _ | .call slot _ _ => slot

mutual

/-- Whether a node yields the same whatever arguments the factory around the tree is given. -/
def isClosed : Node → Bool
  | .constant _ _ | .cell _ _ => true
  | .variable _ _ => false
  | .call _ _ children => allClosed children

/-- Whether all nodes of a list are closed. -/
def allClosed : List Node → Bool
  | [] => true
  | n :: rest => n.isClosed && allClosed rest

end

/-- The factory a node calls. -/
def factory? : Node → Option Factory
  | .call _ factory _ => some factory
  | _ => none

/-- The children of a node. -/
def children : Node → List Node
  | .call _ _ children => children
  | _ => []

end Node

end GridAudit
