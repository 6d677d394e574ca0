import GridAudit.Value

/-!
# Formal parameters

A factory declares the slots its arguments may be bound to: the name and type of each, whether it
takes several values and whether it must be given.
-/

namespace GridAudit

/-- A formal parameter. -/
structure Formal where
  name : String
  description : String
  type : ValueType
  isArray : Bool
  isRequired : Bool
  deriving DecidableEq, Inhabited

namespace Formal

/-- A formal that takes one value and must be given. -/
def single (name : String) (type : ValueType) : Formal := ⟨name, "", type, false, true⟩

/-- The formal taking any number of values. -/
def array (f : Formal) : Formal := { f with isArray := true }

/-- The formal that need not be given. -/
def optional (f : Formal) : Formal := { f with isRequired := false }

/-- The formal with a description. -/
def described (f : Formal) (description : String) : Formal := { f with description }

/-- The formal under another name. -/
def renamed (f : Formal) (name : String) : Formal := { f with name }

/-- The formal with another type. -/
def retyped (f : Formal) (type : ValueType) : Formal := { f with type }

/-- The formal of a name among those declared. -/
def find? (formals : List Formal) (name : String) : Option Formal := formals.find? (·.name = name)

/-- Put a declaration: a new name comes last, a name declared before keeps its place. -/
def declare (formals : List Formal) (f : Formal) : List Formal :=
  if formals.any (·.name = f.name) then formals.map fun g => if g.name = f.name then f else g
  else formals ++ [f]

/-- Declarations without repeated names, each name in its first place with its last declaration. -/
def normalize (formals : List Formal) : List Formal := formals.foldl declare []

end Formal

end GridAudit
