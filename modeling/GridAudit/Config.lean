import GridAudit.Json.Decode
import GridAudit.Json.Printer
import GridAudit.Json.Reader

/-!
# Settings

How far a change spreads to the cells that depend on it, and whether rule trees are optimized. What
a text leaves out has its default.
-/

namespace GridAudit

/-- The settings of an engine. -/
structure Config where
  propagationDepth : Nat
  optimizeTrees : Bool
  deriving DecidableEq, Inhabited

namespace Config

/-- The settings of a text without any. -/
def initial : Config := ⟨1, true⟩

/-- Decode settings. -/
def decode (source : JsonSource) (j : Json) : Except JsonFault Config := do
  let met := j.fields source ["propagation_depth", "optimize_trees"]
  let depth := Json.orDefault initial.propagationDepth Json.decodeNat
    (Json.fieldValue? "propagation_depth" met)
  let optimize := Json.orDefault initial.optimizeTrees Json.decodeBool
    (Json.fieldValue? "optimize_trees" met)
  Json.inOrder [("propagation_depth", Json.faultOf? depth),
    ("optimize_trees", Json.faultOf? optimize)] met
  return ⟨← depth, ← optimize⟩

/-- Settings as JSON. -/
def encode (c : Config) : Json := Json.record
  [("propagation_depth", .number (.ofNat c.propagationDepth)),
    ("optimize_trees", .bool c.optimizeTrees)]

/-- Read settings from text. -/
def parse (text : String) : Except JsonFault Config := Json.decodeText (decode (.direct 0)) text

/-- The text of settings. -/
def print (c : Config) : String := c.encode.print

end Config

end GridAudit
