import GridAudit.Grid.Graph
import GridAudit.Grid.Verdict

/-!
# The last verdict of every cell

A ledger has a place for each cell up to some number, empty as long as the cell was not checked. It
grows as needed.
-/

namespace GridAudit

/-- The last verdicts, by the numbers of cells. -/
structure Ledger where
  verdicts : List (Option Verdict)
  deriving DecidableEq

namespace Ledger

/-- A ledger without places. -/
def empty : Ledger := ⟨[]⟩

/-- The verdict of a cell, if it was checked. -/
def get? (l : Ledger) (id : CellId) : Option Verdict := l.verdicts[id.index]?.join

/-- A ledger of at least a number of places. -/
def ensure (l : Ledger) (size : Nat) : Ledger :=
  ⟨l.verdicts ++ List.replicate (size - l.verdicts.length) none⟩

/-- Record the verdict of a cell. -/
def insert (l : Ledger) (id : CellId) (v : Verdict) : Ledger :=
  ⟨(l.ensure (id.index + 1)).verdicts.set id.index (some v)⟩

/-- Forget the verdicts of cells. -/
def invalidate (l : Ledger) (ids : List CellId) : Ledger :=
  ⟨ids.foldl (fun verdicts id => verdicts.set id.index none) l.verdicts⟩

/-- Forget everything and make a number of places. -/
def reset (size : Nat) : Ledger := ⟨List.replicate size none⟩

end Ledger

end GridAudit
