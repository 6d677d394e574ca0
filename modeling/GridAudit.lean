import GridAudit.Address
import GridAudit.Config
import GridAudit.Definition.Basic
import GridAudit.Definition.Json
import GridAudit.Factory.Basic
import GridAudit.Factory.Checker
import GridAudit.Factory.Folding
import GridAudit.Factory.Formal
import GridAudit.Factory.Instantiate
import GridAudit.Factory.Validation
import GridAudit.Grid.Graph
import GridAudit.Grid.Ledger
import GridAudit.Grid.Report
import GridAudit.Grid.Schedule
import GridAudit.Grid.Sheet
import GridAudit.Grid.Trace
import GridAudit.Grid.Verdict
import GridAudit.Grid.Workbook
import GridAudit.Json.Basic
import GridAudit.Json.Decode
import GridAudit.Json.Printer
import GridAudit.Json.Reader
import GridAudit.Number.Layout
import GridAudit.Number.Real
import GridAudit.Number.Shortest
import GridAudit.Number.Whole
import GridAudit.Pattern.Class
import GridAudit.Pattern.Program
import GridAudit.Pattern.Reader
import GridAudit.Pattern.Replacement
import GridAudit.Pattern.Search
import GridAudit.Pattern.Shape
import GridAudit.Proofs.AddressGrammar
import GridAudit.Proofs.AddressText
import GridAudit.Proofs.ArgumentFaults
import GridAudit.Proofs.CellsInTrees
import GridAudit.Proofs.Clamping
import GridAudit.Proofs.Closed
import GridAudit.Proofs.Coherence
import GridAudit.Proofs.Combinators
import GridAudit.Proofs.Commuting
import GridAudit.Proofs.Declared
import GridAudit.Proofs.DefinitionText
import GridAudit.Proofs.Exported
import GridAudit.Proofs.Flattening
import GridAudit.Proofs.Folding
import GridAudit.Proofs.FreeNames
import GridAudit.Proofs.Graph
import GridAudit.Proofs.HopOrder
import GridAudit.Proofs.Inlining
import GridAudit.Proofs.JsonText
import GridAudit.Proofs.LateReading
import GridAudit.Proofs.Ledger
import GridAudit.Proofs.Linked
import GridAudit.Proofs.LoadedPrefix
import GridAudit.Proofs.NodeBuilding
import GridAudit.Proofs.NormalForm
import GridAudit.Proofs.Operands
import GridAudit.Proofs.Optimization
import GridAudit.Proofs.PatternBodies
import GridAudit.Proofs.PatternPrograms
import GridAudit.Proofs.PatternReading
import GridAudit.Proofs.PatternSearch
import GridAudit.Proofs.Phases
import GridAudit.Proofs.Reachable
import GridAudit.Proofs.ReferenceRelation
import GridAudit.Proofs.References
import GridAudit.Proofs.Refusal
import GridAudit.Proofs.Registered
import GridAudit.Proofs.Replacing
import GridAudit.Proofs.Reports
import GridAudit.Proofs.Representation
import GridAudit.Proofs.Restoring
import GridAudit.Proofs.Results
import GridAudit.Proofs.RowByRow
import GridAudit.Proofs.Schedule
import GridAudit.Proofs.Search
import GridAudit.Proofs.Settled
import GridAudit.Proofs.SharedToken
import GridAudit.Proofs.SignedNumbers
import GridAudit.Proofs.Splicing
import GridAudit.Proofs.Steady
import GridAudit.Proofs.Stratified
import GridAudit.Proofs.TextsInCells
import GridAudit.Proofs.ThroughText
import GridAudit.Proofs.TreeFaults
import GridAudit.Proofs.TreeSoundness
import GridAudit.Proofs.Trial
import GridAudit.Proofs.Typing
import GridAudit.Proofs.Validation
import GridAudit.Proofs.WholeMatch
import GridAudit.Registry
import GridAudit.Rule.Builtin
import GridAudit.Rule.Context
import GridAudit.Rule.Operand
import GridAudit.Rule.Param
import GridAudit.Rule.Test
import GridAudit.Text.Age
import GridAudit.Text.Blank
import GridAudit.Text.Case
import GridAudit.Text.Category
import GridAudit.Text.CharSet
import GridAudit.Text.Fold
import GridAudit.Text.Property
import GridAudit.Text.Quoted
import GridAudit.Text.Script
import GridAudit.Text.Segment
import GridAudit.Value
import GridAudit.Workbench
