import GridAudit.Definition.Basic
import GridAudit.Json.Decode
import GridAudit.Json.Printer
import GridAudit.Json.Reader

/-!
# Definitions as JSON

The JSON form of constants, formals and definitions. Constants carry the name of their type beside
the value; nodes and bodies carry their kind among their other members. What is printed has every
field in order, also those that may be left out.
-/

namespace GridAudit

/-- The plain type of a name. -/
def ValueType.ofPlainName? (s : String) : Option ValueType := (ofName? s).filter isPlain

namespace Constant

/-- Decode the value of a constant of a type. -/
def decodeValue (j : Json) : ValueType → Except JsonFault Constant
  | .int => j.decodeInt.map .int
  | .real => j.decodeReal.map .real
  | .char => j.decodeChar.map .char
  | _ => j.decodeString.map .string

/-- Decode the type of a constant, which in an array stands as a tag does. -/
def decodeType (source : JsonSource) (inArray : Bool) (j : Json) : Except JsonFault ValueType :=
  if inArray then do
    let name ← j.decodeTag source ((ValueType.all.filter ValueType.isPlain).map ValueType.name)
    Json.named ValueType.ofPlainName? name
  else j.decodeName source ValueType.ofPlainName?

/-- Decode a constant. A value that is met before its type is held until the type is known. -/
def decode (source : JsonSource) (j : Json) : Except JsonFault Constant := do
  let met := j.fields source ["type", "value"]
  let type := Json.require (decodeType source.inner j.items?.isSome) (Json.fieldValue? "type" met)
  let value := do
    let type ← type
    Json.require (decodeValue · type) (Json.fieldValue? "value" met)
  let faults :=
    if Json.firstField? met = some "value" then
      [("value", (Json.fieldValue? "value" met).bind source.inner.holdFault),
        ("type", Json.faultOf? value)]
    else [("type", Json.faultOf? type), ("value", Json.faultOf? value)]
  Json.inOrder faults met
  value

/-- A constant as JSON. -/
def encode (c : Constant) : Json :=
  let value := match c with
    | .string s => Json.text s
    | .int i => .number (.ofInt i.toInt)
    | .real x => Json.ofFloat x
    | .char ch => Json.text (String.singleton ch)
  Json.record [("type", Json.text c.type.name), ("value", value)]

/-- Read a constant from text. -/
def parse (text : String) : Except JsonFault Constant := Json.decodeText (decode (.direct 0)) text

/-- The text of a constant as JSON. -/
def print (c : Constant) : String := c.encode.print

end Constant

namespace Formal

/-- Decode a formal parameter. -/
def decode (source : JsonSource) (j : Json) : Except JsonFault Formal := do
  let met := j.fields source ["name", "description", "type", "is_array", "is_required"]
  let name := Json.require Json.decodeString (Json.fieldValue? "name" met)
  let description := Json.orDefault "" Json.decodeString (Json.fieldValue? "description" met)
  let type := Json.require (Json.decodeName source.inner ValueType.ofName?)
    (Json.fieldValue? "type" met)
  let isArray := Json.orDefault false Json.decodeBool (Json.fieldValue? "is_array" met)
  let isRequired := Json.orDefault true Json.decodeBool (Json.fieldValue? "is_required" met)
  Json.inOrder [("name", Json.faultOf? name), ("description", Json.faultOf? description),
    ("type", Json.faultOf? type), ("is_array", Json.faultOf? isArray),
    ("is_required", Json.faultOf? isRequired)] met
  return ⟨← name, ← description, ← type, ← isArray, ← isRequired⟩

/-- A formal parameter as JSON. -/
def encode (f : Formal) : Json := Json.record
  [("name", Json.text f.name), ("description", Json.text f.description),
    ("type", Json.text f.type.name), ("is_array", .bool f.isArray),
    ("is_required", .bool f.isRequired)]

/-- Read a formal parameter from text. -/
def parse (text : String) : Except JsonFault Formal := Json.decodeText (decode (.direct 0)) text

end Formal

namespace NodeDefinition

/-- The names of the kinds of nodes. -/
def kinds : List String := ["constant", "cell", "variable", "factory"]

/-- Decode a node; `fuel` bounds the depth of the tree. -/
def decodeWithin : Nat → JsonSource → Json → Except JsonFault NodeDefinition
  | 0, _, _ => .error .malformed
  | fuel + 1, source, j => do
    let held ← j.holdTagged source "node" kinds
    match held.tag with
    | "constant" =>
      let met := held.rest.fields .held ["slot", "value"]
      let slot := Json.require Json.decodeString (Json.fieldValue? "slot" met)
      let value := Json.require (Constant.decode .held) (Json.fieldValue? "value" met)
      Json.inOrder [("slot", Json.faultOf? slot), ("value", Json.faultOf? value)] met
      return .constant (← slot) (← value)
    | "cell" =>
      let met := held.rest.fields .held ["slot", "address"]
      let slot := Json.require Json.decodeString (Json.fieldValue? "slot" met)
      let address := Json.require Json.decodeString (Json.fieldValue? "address" met)
      Json.inOrder [("slot", Json.faultOf? slot), ("address", Json.faultOf? address)] met
      return .cell (← slot) (← address)
    | "variable" =>
      let met := held.rest.fields .held ["slot", "argument"]
      let slot := Json.require Json.decodeString (Json.fieldValue? "slot" met)
      let argument := Json.require Json.decodeString (Json.fieldValue? "argument" met)
      Json.inOrder [("slot", Json.faultOf? slot), ("argument", Json.faultOf? argument)] met
      return .variable (← slot) (← argument)
    | _ =>
      let met := held.rest.fields .held ["slot", "factory", "children"]
      let slot := Json.require Json.decodeString (Json.fieldValue? "slot" met)
      let factory := Json.require Json.decodeString (Json.fieldValue? "factory" met)
      let children := Json.orDefault [] (Json.decodeArray .held (decodeWithin fuel))
        (Json.fieldValue? "children" met)
      Json.inOrder [("slot", Json.faultOf? slot), ("factory", Json.faultOf? factory),
        ("children", Json.faultOf? children)] met
      return .call (← slot) (← factory) (← children)

/-- Decode a node. A value that may be read is not nested deeper than the limit, which therefore
bounds the depth of the tree. -/
def decode : JsonSource → Json → Except JsonFault NodeDefinition :=
  decodeWithin (Json.depthLimit + 1)

mutual

/-- A node as JSON. -/
def encode : NodeDefinition → Json
  | .constant slot value => Json.record
    [("node", Json.text "constant"), ("slot", Json.text slot), ("value", value.encode)]
  | .cell slot address => Json.record
    [("node", Json.text "cell"), ("slot", Json.text slot), ("address", Json.text address)]
  | .variable slot argument => Json.record
    [("node", Json.text "variable"), ("slot", Json.text slot), ("argument", Json.text argument)]
  | .call slot factory children => Json.record
    [("node", Json.text "factory"), ("slot", Json.text slot), ("factory", Json.text factory),
      ("children", .array (encodeAll children))]

/-- Nodes as JSON. -/
def encodeAll : List NodeDefinition → List Json
  | [] => []
  | d :: rest => d.encode :: encodeAll rest

end

/-- Read a node from text. -/
def parse (text : String) : Except JsonFault NodeDefinition :=
  Json.decodeText (decode (.direct 0)) text

/-- The text of a node. -/
def print (d : NodeDefinition) : String := d.encode.print

end NodeDefinition

namespace BodyDefinition

/-- Decode a body. -/
def decode (source : JsonSource) (j : Json) : Except JsonFault BodyDefinition := do
  let held ← j.holdTagged source "kind" ["native", "tree"]
  match held.tag with
  | "native" =>
    let met := held.rest.fields .held ["id"]
    let id := Json.require Json.decodeString (Json.fieldValue? "id" met)
    Json.inOrder [("id", Json.faultOf? id)] met
    return .native (← id)
  | _ =>
    let met := held.rest.fields .held ["root"]
    let root := Json.require (NodeDefinition.decode .held) (Json.fieldValue? "root" met)
    Json.inOrder [("root", Json.faultOf? root)] met
    return .tree (← root)

/-- A body as JSON. -/
def encode : BodyDefinition → Json
  | .native id => Json.record [("kind", Json.text "native"), ("id", Json.text id)]
  | .tree root => Json.record [("kind", Json.text "tree"), ("root", root.encode)]

end BodyDefinition

namespace FactoryDefinition

/-- Decode a definition. -/
def decode (source : JsonSource) (j : Json) : Except JsonFault FactoryDefinition := do
  let met := j.fields source ["name", "description", "output", "params", "body"]
  let name := Json.require Json.decodeString (Json.fieldValue? "name" met)
  let description := Json.orDefault "" Json.decodeString (Json.fieldValue? "description" met)
  let output := Json.require (Json.decodeName source.inner RuleKind.ofName?)
    (Json.fieldValue? "output" met)
  let formals := Json.orDefault [] (Json.decodeArray source.inner Formal.decode)
    (Json.fieldValue? "params" met)
  let body := Json.require (BodyDefinition.decode source.inner) (Json.fieldValue? "body" met)
  Json.inOrder [("name", Json.faultOf? name), ("description", Json.faultOf? description),
    ("output", Json.faultOf? output), ("params", Json.faultOf? formals),
    ("body", Json.faultOf? body)] met
  return ⟨← name, ← description, ← output, ← formals, ← body⟩

/-- A definition as JSON. -/
def encode (d : FactoryDefinition) : Json := Json.record
  [("name", Json.text d.name), ("description", Json.text d.description),
    ("output", Json.text d.output.name), ("params", .array (d.formals.map Formal.encode)),
    ("body", d.body.encode)]

/-- Read a definition from text. -/
def parse (text : String) : Except JsonFault FactoryDefinition :=
  Json.decodeText (decode (.direct 0)) text

/-- Read a list of definitions from text. -/
def parseList (text : String) : Except JsonFault (List FactoryDefinition) :=
  Json.decodeText (Json.decodeArray (.direct 0) decode) text

/-- The text of a definition. -/
def print (d : FactoryDefinition) : String := d.encode.print

end FactoryDefinition

/-- Load definitions from text; a text that holds none changes nothing. -/
def Registry.loadText (r : Registry) (text : String) : Registry.Loading :=
  match FactoryDefinition.parseList text with
  | .ok definitions => r.load definitions
  | .error fault => ⟨r, [], some (.definition fault)⟩

end GridAudit
