import GridAudit.Json.Basic

/-!
# Decoding JSON

Values of the library from JSON. A record is an object, or an array of its fields in order whose
last ones may be missing when they have defaults. A name from a fixed set is a string, or an object
whose only member has that name and holds null.

What is decoded is either read straight from the text, which does not mind faults in parts it passes
over, or is first held as a whole, as choices told apart by a tag must be. The two differ in the
fault they report for a record with too many items and for a name of the wrong kind.

A record is decoded on its way through the text: each field when its value is met, so that of
several faults the first in the text is reported, and a missing field only at the end.
-/

namespace GridAudit

/-- How a value is decoded: straight from the text inside a number of arrays and objects, or from a
value held as a whole. -/
inductive JsonSource where
  | direct (depth : Nat)
  | held
  deriving DecidableEq

namespace JsonSource

/-- The source inside one more array or object. -/
def inner : JsonSource → JsonSource
  | .direct depth => .direct (depth + 1)
  | .held => .held

/-- Whether one more array or object may be entered. -/
def mayEnter : JsonSource → Bool
  | .direct depth => depth < Json.depthLimit
  | .held => true

/-- The fault of a record with too many items. -/
def excess : JsonSource → JsonFault
  | .direct _ => .malformed
  | .held => .mismatched

/-- The first fault of a value that is held as a whole. -/
def holdFault : JsonSource → Json → Option JsonFault
  | .direct depth, j => j.faultWithin depth
  | .held, _ => none

end JsonSource

namespace Json

/-- The fault of a value of the wrong shape. An array or object is known by its first character. -/
def misfit : Json → JsonFault
  | .number n => if n.value?.isSome then .mismatched else .malformed
  | .string none | .torn (.string none) _ => .malformed
  | .torn (.array _) _ | .torn (.object _) _ => .mismatched
  | .torn _ fault => fault
  | _ => .mismatched

/-- Decode a string. -/
def decodeString : Json → Except JsonFault String
  | .string (some s) => .ok s
  | j => .error j.misfit

/-- Decode a string of one character. -/
def decodeChar (j : Json) : Except JsonFault Char := do
  let s ← j.decodeString
  match s.toList with
  | [c] => return c
  | _ => .error .mismatched

/-- Decode a truth value. -/
def decodeBool : Json → Except JsonFault Bool
  | .bool b => .ok b
  | j => .error j.misfit

/-- Decode a natural number of 64 bits. -/
def decodeNat : Json → Except JsonFault Nat
  | .number n => match n.value? with
    | some (.natural m) => .ok m
    | some _ => .error .mismatched
    | none => .error .malformed
  | j => .error j.misfit

/-- Decode an integer of 64 bits. -/
def decodeInt : Json → Except JsonFault Int64
  | .number n => match n.value? with
    | some (.natural m) => if m < Number.signBound then .ok (Int64.ofNat m) else .error .mismatched
    | some (.negative i) => .ok i
    | some (.real _) => .error .mismatched
    | none => .error .malformed
  | j => .error j.misfit

/-- Decode a double, which may be written as an integer. -/
def decodeReal : Json → Except JsonFault Float
  | .number n => match n.value? with
    | some (.natural m) => .ok (Float.ofNat m)
    | some (.negative i) => .ok i.toFloat
    | some (.real x) => .ok x
    | none => .error .malformed
  | j => .error j.misfit

/-- Decode the items of an array one after another. -/
def decodeItems {α : Type} (decode : Json → Except JsonFault α) :
    List Json → Except JsonFault (List α)
  | [] => .ok []
  | j :: rest => do
    let first ← decode j
    let more ← decodeItems decode rest
    return first :: more

/-- Decode an array. -/
def decodeArray {α : Type} (source : JsonSource) (decode : JsonSource → Json → Except JsonFault α)
    (j : Json) : Except JsonFault (List α) :=
  match j.items? with
  | none => .error j.misfit
  | some (items, tear) =>
    if source.mayEnter then do
      let values ← decodeItems (decode source.inner) items
      match tear with
      | none => return values
      | some fault => .error fault
    else .error .malformed

/-- What is met on the way through a record: the value of a field, a value of no use, or a fault. -/
inductive Step where
  | field (name : String) (value : Json)
  | other (value : Json)
  | fault (cause : JsonFault)

/-- The steps through the members of an object, of whose fields some were met before. A key is
looked at before its value. -/
def memberSteps (names met : List String) : List (Json × Json) → List Step
  | [] => []
  | (key, value) :: rest =>
    match key.keyFault, key with
    | none, .string (some name) =>
      if name ∈ met then [.fault .mismatched]
      else if name ∈ names then .field name value :: memberSteps names (name :: met) rest
      else .other value :: memberSteps names met rest
    | cause, _ => [.fault (cause.getD .malformed)]

/-- The steps through the items of an array, which are the fields in order. -/
def itemSteps (excess : Json → Step) : List String → List Json → List Step
  | name :: names, item :: rest => .field name item :: itemSteps excess names rest
  | [], items => items.map excess
  | _, [] => []

/-- The steps through a record; `excess` is what an item is after those of the fields. -/
def steps (source : JsonSource) (excess : Json → Step) (names : List String) (j : Json) :
    List Step :=
  let between : Option (List Step × Option JsonFault) := match j.members?, j.items? with
    | some (members, tear), _ => some (memberSteps names [] members, tear)
    | _, some (items, tear) => some (itemSteps excess names items, tear)
    | none, none => none
  match between with
  | none => [.fault j.misfit]
  | some (between, tear) =>
    if source.mayEnter then between ++ tear.toList.map .fault else [.fault .malformed]

/-- The steps through a record that is decoded field by field. -/
def fields (source : JsonSource) (names : List String) (j : Json) : List Step :=
  j.steps source (fun _ => .fault source.excess) names

/-- The value of a field, if it is met. -/
def fieldValue? (name : String) (met : List Step) : Option Json :=
  met.findSome? fun
    | .field other value => if other = name then some value else none
    | _ => none

/-- Go through a record: the first fault among its steps is that of the record, where `faultOf` is
the fault of a field and `passing` that of a value of no use. -/
def goThrough (passing : Json → Option JsonFault) (faultOf : String → Option JsonFault) :
    List Step → Except JsonFault Unit
  | [] => .ok ()
  | step :: rest =>
    let cause := match step with
      | .field name _ => faultOf name
      | .other value => passing value
      | .fault cause => some cause
    match cause with
    | some cause => .error cause
    | none => goThrough passing faultOf rest

/-- The fault of a value that is passed over, of which only the text must be in order. -/
def skipFault : Json → Option JsonFault
  | .torn _ fault => some fault
  | _ => none

/-- The name of the field that is met first. -/
def firstField? (met : List Step) : Option String :=
  met.findSome? fun
    | .field name _ => some name
    | _ => none

/-- The fault of what was decoded. -/
def faultOf? {α : Type} : Except JsonFault α → Option JsonFault
  | .ok _ => none
  | .error fault => some fault

/-- Go through a record that is decoded field by field, with the fault of each field. -/
def inOrder (faults : List (String × Option JsonFault)) : List Step → Except JsonFault Unit :=
  goThrough skipFault fun name => (faults.lookup name).join

/-- A field that must be there. -/
def require {α : Type} (decode : Json → Except JsonFault α) : Option Json → Except JsonFault α
  | some j => decode j
  | none => .error .mismatched

/-- A field that may be missing. -/
def orDefault {α : Type} (default : α) (decode : Json → Except JsonFault α) :
    Option Json → Except JsonFault α
  | some j => decode j
  | none => .ok default

/-- The value with a name from a fixed set. -/
def named {α : Type} (ofName? : String → Option α) (name : String) : Except JsonFault α :=
  match ofName? name with
  | some a => .ok a
  | none => .error .mismatched

/-- Decode a null. -/
def decodeNull : Json → Except JsonFault Unit
  | .null => .ok ()
  | j => .error j.misfit

/-- Decode a name from the members of an object, as far as there are any: the first member has it
for its key, and is the only one. -/
def decodeNameMember {α : Type} (ofName? : String → Option α) (tear : Option JsonFault) :
    List (Json × Json) → Except JsonFault α
  | [] => .error (tear.getD .malformed)
  | (key, value) :: rest => do
    let name ← key.decodeString
    let a ← named ofName? name
    let _ ← value.decodeNull
    match rest, tear with
    | [], none => return a
    | [], some fault => .error fault
    | _ :: _, _ => .error .malformed

/-- Decode a name from a fixed set. -/
def decodeName {α : Type} (source : JsonSource) (ofName? : String → Option α) (j : Json) :
    Except JsonFault α :=
  match source, j with
  | _, .string (some name) => named ofName? name
  | .direct _, .torn .absent fault => .error fault
  | .direct _, .torn (.string s) fault => .error (misfit (.torn (.string s) fault))
  | .direct _, j => match j.members? with
    | some (members, tear) => decodeNameMember ofName? tear members
    | none => .error .malformed
  | .held, .object [(.string (some name), .null)] => named ofName? name
  | .held, .object [(.string (some name), .object [])] => named ofName? name
  | .held, _ => .error .mismatched

/-- A choice held as a whole: the name of its tag, with its other members or items. -/
structure Tagged where
  tag : String
  rest : Json

/-- The tag of a choice: a string, or in a held value also its number among the names. -/
def decodeTag (source : JsonSource) (names : List String) : Json → Except JsonFault String
  | .string (some s) => if names.contains s then .ok s else .error .mismatched
  | .number n => match source, n.value? with
    | .held, some (.natural i) => match names[i]? with
      | some name => .ok name
      | none => .error .mismatched
    | _, _ => .error (misfit (.number n))
  | j => .error j.misfit

/-- What is left of a choice without its tag: the other members, or the items after the first. -/
def withoutTag (key : String) : Json → Json
  | .object members => .object (members.filter fun m => match m.1 with
    | .string s => s ≠ some key
    | _ => true)
  | .array items => .array items.tail
  | j => j

/-- Hold a choice as a whole and take its tag off. -/
def holdTagged (source : JsonSource) (key : String) (names : List String) (j : Json) :
    Except JsonFault Tagged := do
  let met := j.steps source .other [key]
  let tag := require (decodeTag source names) (fieldValue? key met)
  goThrough source.inner.holdFault (fun _ => faultOf? tag) met
  return ⟨← tag, j.withoutTag key⟩

end Json

end GridAudit
