import GridAudit.Factory.Validation

/-!
# Building rules

A factory validates its arguments and builds a rule. A native body is built at once; a tree is
evaluated from the leaves up, and the rule at its root takes the name and arguments of the factory.
When trees are optimized, a call without variables below it is evaluated without the arguments, so
that one evaluation could serve every caller.
-/

namespace GridAudit

/-- What building depends on beside the factory: the native bodies and the values of variables. -/
structure Environment where
  natives : List Builtin
  vars : Variables

/-- The native body of an identifier. -/
def Environment.native? (env : Environment) (id : String) : Option Builtin :=
  env.natives.find? (·.id = id)

/-- Build the rule of a native body. -/
def Signature.buildNative (s : Signature) (env : Environment) (id : String)
    (arguments : List Argument) : Except InstantiationError Instance :=
  match env.native? id with
  | none => .error (.construction s.name (.noNative id))
  | some native => match native.build arguments with
    | .error cause => .error (.construction s.name (.buildFailed id cause))
    | .ok body =>
      if body.kind = s.output then .ok (body.toInstance s.name arguments)
      else .error (.construction s.name (.wrongKind id body.kind s.output))

/-- The rule of a tree, from what its root yields: exactly one value, which must be or become a rule
of the declared kind. -/
def Signature.adopt (s : Signature) (env : Environment) (arguments yielded : List Argument) :
    Except InstantiationError Instance :=
  match yielded with
  | [root] =>
    match (root.value.convert env.vars s.output.type).bind Param.toInstance? with
    | some rule => .ok (rule.relabel s.name arguments)
    | none =>
      .error (.construction s.name (.wrongRoot (root.value.type env.vars) s.output))
  | values => .error (.construction s.name (.valueCount values.length))

namespace Node

mutual

/-- What a node yields for its slot, given the arguments of the factory around the tree. -/
def evaluate (env : Environment) (optimize : Bool) (arguments : List Argument) :
    Node → Except InstantiationError (List Argument)
  | .constant slot value => .ok [⟨slot, .constant value⟩]
  | .cell slot target => .ok [⟨slot, .cell target⟩]
  | .variable slot argument =>
    .ok ((Bound.valuesOf argument arguments).map fun value => ⟨slot, value⟩)
  | .call slot factory children => do
    let given := if optimize && allClosed children then [] else arguments
    let bound ← evaluateAll env optimize given children
    let rule ← instantiate env optimize factory bound
    return [⟨slot, rule.toParam⟩]

/-- What the nodes of a list yield, in order. -/
def evaluateAll (env : Environment) (optimize : Bool) (arguments : List Argument) :
    List Node → Except InstantiationError (List Argument)
  | [] => .ok []
  | n :: rest => do
    let first ← n.evaluate env optimize arguments
    let more ← evaluateAll env optimize arguments rest
    return first ++ more

/-- The rule a factory builds from arguments. -/
def instantiate (env : Environment) (optimize : Bool) :
    FactoryOf Node → List Argument → Except InstantiationError Instance
  | ⟨signature, body⟩, arguments => do
    let arguments ← signature.validate env.vars arguments
    build env optimize signature arguments body

/-- The rule a body builds from valid arguments. -/
def build (env : Environment) (optimize : Bool) (signature : Signature)
    (arguments : List Argument) : FactoryBody Node → Except InstantiationError Instance
  | .native id => signature.buildNative env id arguments
  | .tree root => do
    let yielded ← root.evaluate env optimize arguments
    signature.adopt env arguments yielded

end

end Node

/-- The rule a factory builds from arguments. -/
def FactoryOf.instantiate (f : Factory) (env : Environment) (optimize : Bool)
    (arguments : List Argument) : Except InstantiationError Instance :=
  Node.instantiate env optimize f arguments

end GridAudit
