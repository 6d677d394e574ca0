import GridAudit.Factory.Basic

/-!
# Validation of arguments

Arguments fit a signature when each names a formal, every required formal is named, only arrays are
named more than once, and each value converts to the type of its formal. The rules are checked in
that order, and the first one broken is the error; valid arguments are converted in place.
-/

namespace GridAudit

/-- Why a valid list of arguments makes no rule. -/
inductive ConstructionError where
  | noNative (id : String)
  | buildFailed (id : String) (cause : BuildError)
  | wrongKind (id : String) (built declared : RuleKind)
  | valueCount (count : Nat)
  | wrongRoot (found : ValueType) (declared : RuleKind)

/-- The wording of a failed construction. -/
def ConstructionError.message : ConstructionError → String
  | .noNative id => s!"no native implementation '{id}'"
  | .buildFailed id _ => s!"native constructor '{id}' failed"
  | .wrongKind id built declared =>
    s!"native '{id}' built a {built.name} but the factory declares {declared.name}"
  | .valueCount count => s!"tree produced {count} values, expected exactly one"
  | .wrongRoot found declared =>
    s!"tree root yields {found.name}, which does not convert to {declared.name}"

/-- Why a factory refuses arguments. -/
inductive InstantiationError where
  | unknownParameter (factory name : String)
  | missingArgument (factory name : String)
  | repeatedArgument (factory name : String) (count : Nat)
  | wrongType (factory name : String) (found expected : ValueType)
  | construction (factory : String) (cause : ConstructionError)

namespace InstantiationError

/-- The factory that refused. -/
def factory : InstantiationError → String
  | .unknownParameter factory _ | .missingArgument factory _ | .repeatedArgument factory _ _
  | .wrongType factory _ _ _ | .construction factory _ => factory

/-- The wording of a refusal. -/
def message : InstantiationError → String
  | .unknownParameter factory name => s!"'{factory}' has no parameter named '{name}'"
  | .missingArgument factory name => s!"'{factory}' requires an argument for '{name}'"
  | .repeatedArgument factory name count =>
    s!"'{factory}' parameter '{name}' takes one value but was given {count}"
  | .wrongType factory name found expected =>
    s!"'{factory}' parameter '{name}' expects {expected.name}, found {found.name}"
  | .construction factory cause => s!"could not instantiate '{factory}': {cause.message}"

end InstantiationError

namespace Signature

/-- The first argument that names no formal. -/
def unknownArgument? (s : Signature) (arguments : List Argument) : Option Argument :=
  arguments.find? fun a => (s.formal? a.slot).isNone

/-- The first required formal that no argument names. -/
def missingFormal? (s : Signature) (arguments : List Argument) : Option Formal :=
  s.formals.find? fun f => f.isRequired && !arguments.any (·.slot = f.name)

/-- How many arguments name a slot. -/
def countOf (arguments : List Argument) (slot : String) : Nat :=
  (Bound.valuesOf slot arguments).length

/-- The first slot named more than once that is no array. -/
def repeatedSlot? (s : Signature) (arguments : List Argument) : Option String :=
  (Bound.slots arguments).find? fun slot =>
    1 < countOf arguments slot && !(s.formal? slot).any (·.isArray)

/-- An argument converted to the type of its formal. -/
def coerce (s : Signature) (vars : Variables) (a : Argument) : Except InstantiationError Argument :=
  match s.formal? a.slot with
  | none => .error (.unknownParameter s.name a.slot)
  | some f => match a.value.convert vars f.type with
    | some value => .ok ⟨a.slot, value⟩
    | none => .error (.wrongType s.name a.slot (a.value.type vars) f.type)

/-- Arguments converted to the types of their formals, up to the first that does not convert. -/
def coerceAll (s : Signature) (vars : Variables) :
    List Argument → Except InstantiationError (List Argument)
  | [] => .ok []
  | a :: rest => do
    let first ← s.coerce vars a
    let more ← s.coerceAll vars rest
    return first :: more

/-- Check arguments against a signature and convert them. -/
def validate (s : Signature) (vars : Variables) (arguments : List Argument) :
    Except InstantiationError (List Argument) :=
  match s.unknownArgument? arguments with
  | some a => .error (.unknownParameter s.name a.slot)
  | none => match s.missingFormal? arguments with
    | some f => .error (.missingArgument s.name f.name)
    | none => match s.repeatedSlot? arguments with
      | some slot => .error (.repeatedArgument s.name slot (countOf arguments slot))
      | none => s.coerceAll vars arguments

end Signature

end GridAudit
