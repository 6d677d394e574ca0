import GridAudit.Registry

/-!
# Definitions

A definition describes a factory without referring to others but by name, so it can be kept as text.
Resolving a definition looks the names up in a registry and reads the addresses; describing a
factory goes the other way.
-/

namespace GridAudit

/-- The description of a node of a rule tree. -/
inductive NodeDefinition where
  | constant (slot : String) (value : Constant)
  | cell (slot address : String)
  | variable (slot argument : String)
  | call (slot factory : String) (children : List NodeDefinition)

/-- The description of the body of a factory. -/
inductive BodyDefinition where
  | native (id : String)
  | tree (root : NodeDefinition)

/-- The description of a factory. -/
structure FactoryDefinition where
  name : String
  description : String
  output : RuleKind
  formals : List Formal
  body : BodyDefinition

namespace NodeDefinition

/-- The kind of a node. -/
def kind : NodeDefinition → String
  | .constant _ _ => "constant"
  | .cell _ _ => "cell"
  | .variable _ _ => "variable"
  | .call _ _ _ => "factory"

mutual

/-- The node that a definition describes. -/
def resolve (r : Registry) : NodeDefinition → Except RegistryError Node
  | .constant slot value => .ok (.constant slot value)
  | .cell slot address => do
    let target ← (CellRange.parse address).mapError RegistryError.address
    return .cell slot target
  | .variable slot argument => .ok (.variable slot argument)
  | .call slot name children => do
    let factory ← r.factory name
    let children ← resolveAll r children
    return .call slot factory children

/-- The nodes that definitions describe. -/
def resolveAll (r : Registry) : List NodeDefinition → Except RegistryError (List Node)
  | [] => .ok []
  | d :: rest => do
    let first ← d.resolve r
    let more ← resolveAll r rest
    return first :: more

end

mutual

/-- The description of a node. -/
def describe : Node → NodeDefinition
  | .constant slot value => .constant slot value
  | .cell slot target => .cell slot target.text
  | .variable slot argument => .variable slot argument
  | .call slot factory children => .call slot factory.name (describeAll children)

/-- The descriptions of nodes. -/
def describeAll : List Node → List NodeDefinition
  | [] => []
  | n :: rest => describe n :: describeAll rest

end

/-- What definitions yield when they are resolved and evaluated one after another, without any
arguments. -/
def yieldAll (r : Registry) (vars : Variables) :
    List NodeDefinition → Except RegistryError (List Argument)
  | [] => .ok []
  | d :: rest => do
    let node ← d.resolve r
    let first ← (node.evaluate (r.environment vars) false []).mapError RegistryError.instantiation
    let more ← yieldAll r vars rest
    return first ++ more

/-- The rule that a definition builds by itself. Only a call builds one; variables below it yield
nothing. -/
def instantiate (r : Registry) (vars : Variables) : NodeDefinition → Except RegistryError Instance
  | .call _ name children => do
    let arguments ← yieldAll r vars children
    r.instantiate vars name arguments
  | d => .error (.notARule d.kind)

mutual

/-- Whether two definitions are the same. -/
def equal : NodeDefinition → NodeDefinition → Bool
  | .constant slot value, .constant slot' value' => slot = slot' && value = value'
  | .cell slot address, .cell slot' address' => slot = slot' && address = address'
  | .variable slot argument, .variable slot' argument' => slot = slot' && argument = argument'
  | .call slot name children, .call slot' name' children' =>
    slot = slot' && name = name' && equalAll children children'
  | _, _ => false

/-- Whether two lists of definitions are the same. -/
def equalAll : List NodeDefinition → List NodeDefinition → Bool
  | [], [] => true
  | d :: rest, d' :: rest' => d.equal d' && equalAll rest rest'
  | _, _ => false

end

end NodeDefinition

/-- Whether two bodies are described alike. -/
def BodyDefinition.equal : BodyDefinition → BodyDefinition → Bool
  | .native id, .native id' => id = id'
  | .tree root, .tree root' => root.equal root'
  | _, _ => false

namespace FactoryDefinition

/-- Whether two definitions are the same. -/
def equal (d e : FactoryDefinition) : Bool :=
  d.name = e.name && d.description = e.description && d.output = e.output && d.formals = e.formals
    && d.body.equal e.body

/-- The factory that a definition describes. -/
def resolve (r : Registry) (d : FactoryDefinition) : Except RegistryError Factory :=
  match d.body with
  | .native id => .ok (.define d.name d.description d.output d.formals (.native id))
  | .tree root => do
    let root ← root.resolve r
    return .define d.name d.description d.output d.formals (.tree root)

/-- The description of a factory. -/
def describe (f : Factory) : FactoryDefinition where
  name := f.name
  description := f.signature.description
  output := f.output
  formals := f.formals
  body := match f.body with
    | .native id => .native id
    | .tree root => .tree (NodeDefinition.describe root)

end FactoryDefinition

namespace Registry

/-- What came of loading definitions: the registry, which keeps what was registered before a
failure, the names of the factories registered, and the failure. -/
structure Loading where
  registry : Registry
  names : List String
  failure : Option RegistryError

/-- Resolve a definition and register its factory. -/
def define (r : Registry) (d : FactoryDefinition) : Except RegistryError Registry := do
  let f ← d.resolve r
  r.register f

/-- Register the factories of definitions one after another, up to the first failure. A definition
may use the factories before it. -/
def load (r : Registry) : List FactoryDefinition → Loading
  | [] => ⟨r, [], none⟩
  | d :: rest =>
    match r.define d with
    | .error e => ⟨r, [], some e⟩
    | .ok r' =>
      let more := r'.load rest
      { more with names := d.name :: more.names }

end Registry

end GridAudit
