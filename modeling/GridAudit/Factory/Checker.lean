import GridAudit.Factory.Basic

/-!
# Checking rule trees

Faults of a tree that show without any arguments: variables the factory does not declare, children
wired to slots that are missing, overfull or left open, values of the wrong type, and a root of the
wrong kind. The whole tree is walked and every fault reported, those of a node before those below
it.
-/

namespace GridAudit

/-- A fault of a tree. -/
inductive TreeFault where
  /-- A variable names an argument that the factory does not declare. -/
  | unknownInput (factory argument : String)
  /-- A child feeds a slot that the factory called does not have. -/
  | unknownSlot (factory slot : String)
  /-- Several children feed a slot that takes one value. -/
  | crowdedSlot (factory slot : String) (count : Nat)
  /-- No child feeds a slot that must be fed. -/
  | openSlot (factory slot : String)
  /-- A child yields a value that does not fit its slot. -/
  | misfit (factory slot : String) (expected : ValueType) (found : String)
  /-- The root does not yield what the factory declares. -/
  | wrongOutput (factory : String) (declared : RuleKind) (found : ValueType)
  deriving DecidableEq

/-- The wording of a fault. -/
def TreeFault.message : TreeFault → String
  | .unknownInput factory argument => s!"'{factory}' declares no input '{argument}'"
  | .unknownSlot factory slot => s!"'{factory}' has no input named '{slot}'"
  | .crowdedSlot factory slot count =>
    s!"'{factory}' input '{slot}' accepts one connection but has {count}"
  | .openSlot factory slot => s!"'{factory}' requires input '{slot}'"
  | .misfit factory slot expected found =>
    s!"input '{slot}' of '{factory}' expects {expected.name}, found {found}"
  | .wrongOutput factory declared found =>
    s!"'{factory}' must yield a {declared.name} but its root yields {found.name}"

/-- A fault and where it is: the slots from the root down to the node. -/
structure TreeError where
  path : List String
  fault : TreeFault
  deriving DecidableEq

/-- The place of a fault, as text. -/
def TreeError.place (e : TreeError) : String := "/".intercalate e.path

/-- The wording of a fault with its place. -/
def TreeError.text (e : TreeError) : String := e.place ++ ": " ++ e.fault.message

namespace Node

/-- The type of what a node yields, unless that is an argument the factory does not declare. -/
def yields? (enclosing : Signature) : Node → Option ValueType
  | .constant _ value => some value.type
  | .cell _ _ => some .string
  | .variable _ argument => (enclosing.formal? argument).map Formal.type
  | .call _ factory _ => some factory.output.type

/-- Whether a node may feed a slot of a type. Constants must convert; cells and plain variables fit
any plain slot; a slot for a replacer takes any plain value. -/
def fits (type found : ValueType) (n : Node) : Bool :=
  found = type || match n with
    | .constant _ value =>
      if type.isPlain then (value.convert type).isSome else type = .replacer && found.isPlain
    | .cell _ _ => type.isPlain || (type = .replacer && found.isPlain)
    | .variable _ _ => (type = .replacer || type.isPlain) && found.isPlain
    | .call _ _ _ => type = .replacer && found.isPlain

/-- How a node that does not fit is called. -/
def foundText (found : ValueType) : Node → String
  | .constant _ value => s!"{value.type.name} '{value.text}'"
  | .cell _ target => "cell " ++ target.text
  | _ => found.name

/-- The slots children feed, each where it first occurs. -/
def slotsOf (children : List Node) : List String :=
  Bound.slots (children.map fun c => (⟨c.slot, c⟩ : Bound Node))

/-- The faults in how children are wired to the slots of a factory. -/
def wiringFaults (factory : Signature) (children : List Node) : List TreeFault :=
  let unknown := (children.filter fun c => (factory.formal? c.slot).isNone).map fun c =>
    TreeFault.unknownSlot factory.name c.slot
  let crowded := (slotsOf children).filterMap fun slot =>
    let count := children.countP (·.slot = slot)
    if 1 < count && (factory.formal? slot).any (!·.isArray) then
      some (.crowdedSlot factory.name slot count)
    else none
  let unfed := factory.formals.filter fun f => f.isRequired && !children.any (·.slot = f.name)
  unknown ++ crowded ++ unfed.map fun f => TreeFault.openSlot factory.name f.name

/-- The fault of a child that does not fit its slot. -/
def misfit? (enclosing factory : Signature) (child : Node) : Option TreeFault := do
  let formal ← factory.formal? child.slot
  let found ← child.yields? enclosing
  if child.fits formal.type found then none
  else some (.misfit factory.name formal.name formal.type (child.foundText found))

mutual

/-- The faults of a node and of the nodes below it. -/
def errors (enclosing : Signature) (path : List String) : Node → List TreeError
  | .constant _ _ | .cell _ _ => []
  | .variable _ argument =>
    if (enclosing.formal? argument).isNone then
      [⟨path, .unknownInput enclosing.name argument⟩]
    else []
  | .call _ factory children =>
    (wiringFaults factory.signature children).map (⟨path, ·⟩)
      ++ children.filterMap (fun c =>
        (c.misfit? enclosing factory.signature).map fun fault => ⟨path ++ [c.slot], fault⟩)
      ++ errorsBelow enclosing path children

/-- The faults of the children of a node. -/
def errorsBelow (enclosing : Signature) (path : List String) : List Node → List TreeError
  | [] => []
  | c :: rest => c.errors enclosing (path ++ [c.slot]) ++ errorsBelow enclosing path rest

end

end Node

/-- Whether a root that yields a type serves a factory that declares a kind. -/
def RuleKind.accepts (declared : RuleKind) (found : ValueType) : Bool :=
  found = declared.type || (declared = .replacer && found.isPlain)

/-- The fault of a root that does not yield what the factory declares. -/
def Signature.outputErrors (s : Signature) (root : Node) : List TreeError :=
  match root.yields? s with
  | none => []
  | some found =>
    if s.output.accepts found then [] else [⟨[root.slot], .wrongOutput s.name s.output found⟩]

/-- The faults of a factory; a native body has none. -/
def FactoryOf.check (f : Factory) : List TreeError :=
  match f.body with
  | .native _ => []
  | .tree root => f.signature.outputErrors root ++ root.errors f.signature [root.slot]

end GridAudit
