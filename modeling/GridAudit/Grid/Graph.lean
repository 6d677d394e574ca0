/-!
# Dependencies between cells

The cells of a sheet are numbered row by row. A cell depends on another when the rules on it read
that one; the graph of a sheet lists these pairs without repeats, leaving out cells that read
themselves or a place outside the sheet. What a cell is asked for comes in the order of the numbers.

Drawn as a multigraph, a dependency is two edges, one each way, which differ in their kind.
-/

namespace GridAudit

/-- The number of a cell; it has 32 bits. -/
abbrev CellId := UInt32

namespace CellId

/-- The number with an index. -/
def ofIndex (i : Nat) : CellId := UInt32.ofNat i

/-- The index of a number. -/
def index (id : CellId) : Nat := id.toNat

/-- The number of a cell in a sheet with a number of columns. -/
def ofPlace (row column columns : Nat) : CellId := ofIndex (row * columns + column)

/-- The row and column of a number; a sheet without columns has one place for all. -/
def place (id : CellId) (columns : Nat) : Nat × Nat :=
  if columns = 0 then (0, 0) else (id.index / columns, id.index % columns)

/-- Numbers in ascending order without repeats. -/
def ascending (ids : List CellId) : List CellId := (ids.mergeSort fun a b => a ≤ b).eraseReps

end CellId

/-- A cell that is read and the cell whose rules read it. -/
structure Dependency where
  source : CellId
  reader : CellId
  deriving DecidableEq

/-- What an edge tells of the cell it leaves. -/
inductive EdgeKind where
  /-- The cell it leads to reads that cell. -/
  | dependency
  /-- The cell it leads to is read there. -/
  | adjacent
  deriving DecidableEq

/-- An edge that leads from one cell to another. -/
structure Edge where
  start : CellId
  stop : CellId
  kind : EdgeKind

/-- The two edges of a dependency: from the cell that is read, and back. -/
def Dependency.edges (d : Dependency) : List Edge :=
  [⟨d.source, d.reader, .dependency⟩, ⟨d.reader, d.source, .adjacent⟩]

/-- The dependencies between the cells of a sheet of a given shape, without repeats. -/
structure CellGraph where
  rows : Nat
  columns : Nat
  dependencies : List Dependency
  deriving DecidableEq

namespace CellGraph

/-- The graph of a sheet without cells. -/
def empty : CellGraph := ⟨0, 0, []⟩

/-- The dependencies of one cell on the places it reads. -/
def dependenciesOf (rows columns : Nat) (reader : CellId) (targets : List (Nat × Nat)) :
    List Dependency :=
  (targets.filter fun t => t.1 < rows && t.2 < columns).filterMap fun t =>
    let source := CellId.ofPlace t.1 t.2 columns
    if source = reader then none else some ⟨source, reader⟩

/-- A list of dependencies with one more, unless it has it. -/
def insert (known : List Dependency) (d : Dependency) : List Dependency :=
  if known.contains d then known else known ++ [d]

/-- The places of a sheet, row by row. -/
def places (rows columns : Nat) : List (Nat × Nat) :=
  (List.range rows).flatMap fun row => (List.range columns).map fun column => (row, column)

/-- The graph of a sheet whose cells read the places that `targets` lists. -/
def build (rows columns : Nat) (targets : Nat → Nat → List (Nat × Nat)) : CellGraph where
  rows
  columns
  dependencies := (places rows columns).flatMap fun p =>
    let reader := CellId.ofPlace p.1 p.2 columns
    (dependenciesOf rows columns reader (targets p.1 p.2)).foldl insert []

/-- Where the edges of some kinds lead that leave a cell. -/
def stops (g : CellGraph) (kinds : List EdgeKind) (id : CellId) : List CellId :=
  ((g.dependencies.flatMap Dependency.edges).filter fun e => e.start = id ∧ e.kind ∈ kinds).map
    Edge.stop

/-- The number of cells. -/
def nodeCount (g : CellGraph) : Nat := g.rows * g.columns

/-- The number of dependencies. -/
def dependencyCount (g : CellGraph) : Nat := g.dependencies.length

/-- The number of the cell at a place within the sheet. -/
def cellId? (g : CellGraph) (row column : Nat) : Option CellId :=
  if row < g.rows ∧ column < g.columns then some (CellId.ofPlace row column g.columns) else none

/-- The row and column of a cell. -/
def place (g : CellGraph) (id : CellId) : Nat × Nat := id.place g.columns

/-- The cells whose rules read a cell, unsorted. -/
def readersOf (g : CellGraph) (id : CellId) : List CellId :=
  (g.dependencies.filter (·.source = id)).map Dependency.reader

/-- The cells that the rules on a cell read, unsorted. -/
def sourcesOf (g : CellGraph) (id : CellId) : List CellId :=
  (g.dependencies.filter (·.reader = id)).map Dependency.source

/-- What is asked of a cell; a number outside the sheet has nothing. -/
def within (g : CellGraph) (id : CellId) (ids : List CellId) : List CellId :=
  if id.index < g.nodeCount then CellId.ascending ids else []

/-- The cells whose rules read a cell. -/
def dependents (g : CellGraph) (id : CellId) : List CellId := g.within id (g.readersOf id)

/-- The cells that the rules on a cell read. -/
def precedents (g : CellGraph) (id : CellId) : List CellId := g.within id (g.sourcesOf id)

/-- The cells connected to a cell either way. -/
def related (g : CellGraph) (id : CellId) : List CellId :=
  g.within id (g.readersOf id ++ g.sourcesOf id)

end CellGraph

end GridAudit
