import GridAudit.Factory.Checker
import GridAudit.Factory.Instantiate
import GridAudit.Json.Basic
import GridAudit.Text.Quoted

/-!
# Registries

A registry holds native bodies and named factories, the latter in the order of their registration.
A factory is registered when its name is free, its native body is there and its tree has no faults;
what is registered stays as it is.

The native bodies are those of the built-in rules, or some of them. A host may bring bodies of its
own under further identifiers; these are foreign code, of which nothing is known, and are left out.
-/

namespace GridAudit

/-- Why a registry refuses a request. -/
inductive RegistryError where
  | duplicateFactory (name : String)
  | unknownFactory (name : String)
  | unknownNative (factory id : String)
  /-- A node of another kind than a call builds no rule. -/
  | notARule (kind : String)
  | malformedTree (factory : String) (errors : List TreeError)
  | instantiation (cause : InstantiationError)
  | address (cause : AddressError)
  /-- A text holds no definitions. -/
  | definition (fault : JsonFault)

/-- The wording of a refusal. The fault of a text has no wording of its own. -/
def RegistryError.message : RegistryError → String
  | .duplicateFactory name => s!"factory '{name}' is already registered"
  | .unknownFactory name => s!"unknown factory '{name}'"
  | .unknownNative factory id =>
    s!"factory '{factory}' is bound to unknown native implementation '{id}'"
  | .notARule kind => s!"a {kind} node does not build an instance; only factory nodes do"
  | .malformedTree factory errors =>
    let first := (errors.head?.map TreeError.text).getD ""
    s!"factory '{factory}' has {errors.length} tree error(s); first: {first}"
  | .instantiation cause => cause.message
  | .address cause => cause.message
  | .definition _ => ""

/-- Native bodies, factories in order of registration, and whether trees are optimized. Bodies that
a host registers itself are left out: every native body is that of a built-in rule. -/
structure Registry where
  natives : List Builtin
  factories : List Factory
  optimize : Bool

namespace Registry

/-- A registry without anything in it. -/
def empty : Registry := ⟨[], [], true⟩

/-- The factory of a built-in rule. -/
def builtinFactory (b : Builtin) : Factory :=
  .define b.name b.description b.kind b.formals (.native b.id)

/-- A registry with the built-in rules. -/
def withBuiltins : Registry := ⟨Builtin.list, Builtin.list.map builtinFactory, true⟩

/-- The number of factories. -/
def count (r : Registry) : Nat := r.factories.length

/-- The names of the factories, in order. -/
def names (r : Registry) : List String := r.factories.map FactoryOf.name

/-- The factory of a name. -/
def factory? (r : Registry) (name : String) : Option Factory := r.factories.find? (·.name = name)

/-- The factory of a name, or the refusal for want of it. -/
def factory (r : Registry) (name : String) : Except RegistryError Factory :=
  match r.factory? name with
  | some f => .ok f
  | none => .error (.unknownFactory name)

/-- Whether a name is taken. -/
def isTaken (r : Registry) (name : String) : Bool := r.factories.any (·.name = name)

/-- Whether there is a native body of an identifier. -/
def hasNative (r : Registry) (id : String) : Bool := r.natives.any (·.id = id)

/-- Why a factory may not be registered. -/
def refusal? (r : Registry) (f : Factory) : Option RegistryError :=
  if r.isTaken f.name then some (.duplicateFactory f.name)
  else match f.body with
    | .native id => if r.hasNative id then none else some (.unknownNative f.name id)
    | .tree _ => match f.check with
      | [] => none
      | errors => some (.malformedTree f.name errors)

/-- Register a factory. -/
def register (r : Registry) (f : Factory) : Except RegistryError Registry :=
  match r.refusal? f with
  | some e => .error e
  | none => .ok { r with factories := r.factories ++ [f] }

/-- What building rules depends on. -/
def environment (r : Registry) (vars : Variables) : Environment := ⟨r.natives, vars⟩

/-- Build a rule by the name of its factory. -/
def instantiate (r : Registry) (vars : Variables) (name : String) (arguments : List Argument) :
    Except RegistryError Instance := do
  let f ← r.factory name
  (f.instantiate (r.environment vars) r.optimize arguments).mapError .instantiation

/-- The name made of a base and a number. -/
def numberedName (base : String) (number : Int32) : String := s!"{base}_{number.toInt}"

/-- The first free name among a candidate and, behind it, the names made of a base and the numbers
from a given one on, which wrap around at 32 bits. There is none when so many lookups find none. -/
def freeName? (r : Registry) (base candidate : String) (number : Int32) : Nat → Option String
  | 0 => none
  | lookups + 1 =>
    if r.isTaken candidate then r.freeName? base (numberedName base number) (number + 1) lookups
    else some candidate

/-- The first free name made of a base, which is tried without a number first; one more lookup than
there are factories finds it. -/
def uniqueName (r : Registry) (base : String) : String :=
  (r.freeName? base base 1 (r.count + 1)).getD base

/-- A list of names in quotes. -/
def quotedNames (names : List String) : String :=
  "[" ++ ", ".intercalate (names.map Text.quote) ++ "]"

/-- A summary in one line: the identifiers of native bodies in order, the names of factories, and
the flag. -/
def summary (r : Registry) : String :=
  let ids := (r.natives.map Builtin.id).mergeSort fun x y => !(y < x)
  "Registry \x7b natives: " ++ quotedNames ids ++ ", factories: " ++ quotedNames r.names
    ++ ", optimize: " ++ (if r.optimize then "true" else "false") ++ " \x7d"

end Registry

end GridAudit
