import GridAudit.Grid.Graph

/-!
# Which cells a change reaches

A change spreads from a cell to its dependents, to theirs, and so on for a limited number of hops.
The cells reached are visited breadth first, each at most once for a token, which several changes
may share.
-/

namespace GridAudit

/-- The cells visited so far and the number of hops a change may take. -/
structure Token where
  visited : List CellId
  limit : Nat
  deriving DecidableEq

namespace Token

/-- A token that has visited nothing. -/
def new (limit : Nat) : Token := ⟨[], limit⟩

/-- Whether a cell was visited. -/
def hasVisited (t : Token) (id : CellId) : Bool := t.visited.contains id

/-- The token after visiting a cell. -/
def visit (t : Token) (id : CellId) : Token :=
  if t.hasVisited id then t else { t with visited := t.visited ++ [id] }

/-- The number of cells visited. -/
def visitedCount (t : Token) : Nat := t.visited.length

end Token

namespace CellGraph

/-- Visit the dependents of queued cells, each of which waits with its number of hops. Every cell is
queued when it is first visited, as the reader of some dependency, so the number of dependencies
bounds the steps. -/
def spread (g : CellGraph) : Nat → List (CellId × Nat) → Token → List CellId × Token
  | 0, _, token => ([], token)
  | _ + 1, [], token => ([], token)
  | fuel + 1, (cell, hops) :: queue, token =>
    if token.limit ≤ hops then g.spread fuel queue token
    else
      let fresh := (g.dependents cell).filter fun id => !token.hasVisited id
      let (more, token') := g.spread fuel (queue ++ fresh.map fun id => (id, hops + 1))
        { token with visited := token.visited ++ fresh }
      (fresh ++ more, token')

/-- The cells to check again after a cell changed, without the cell itself. -/
def schedule (g : CellGraph) (origin : CellId) (token : Token) : List CellId × Token :=
  g.spread (g.dependencyCount + 1) [(origin, 0)] (token.visit origin)

/-- Schedules of several cells in turn under one token. -/
def scheduleAll (g : CellGraph) : List CellId → Token → List (List CellId) × Token
  | [], token => ([], token)
  | origin :: rest, token =>
    let (first, token) := g.schedule origin token
    let (more, token) := g.scheduleAll rest token
    (first :: more, token)

end CellGraph

end GridAudit
