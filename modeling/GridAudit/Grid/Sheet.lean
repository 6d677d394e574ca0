import GridAudit.Grid.Ledger

/-!
# Sheets

A sheet is a grid of texts whose rows all have the same number of cells, with rules attached to
ranges of it. Rows and columns may be inserted and removed; ranges and references do not move with
them. Whenever the shape or the rules change, the dependencies are found anew and the verdicts,
which go by the numbers of cells, are forgotten.
-/

namespace GridAudit

/-- Why a sheet or workbook refuses a request. -/
inductive SheetError where
  | unknownSheet (name : String)
  | duplicateSheet (name : String)
  | outOfBounds (sheet : String) (row column : Nat)
  | rowShape (sheet : String) (row expected found : Nat)
  | sheetMismatch (sheet : String) (range : CellRange)
  deriving DecidableEq

/-- The wording of a refusal. -/
def SheetError.message : SheetError → String
  | .unknownSheet name => s!"no sheet named '{name}'"
  | .duplicateSheet name => s!"a sheet named '{name}' already exists"
  | .outOfBounds sheet row column => s!"cell {row}:{column} is outside sheet '{sheet}'"
  | .rowShape sheet row expected found =>
    s!"row {row} of sheet '{sheet}' has {found} cells but the sheet has {expected} columns"
  | .sheetMismatch sheet range => s!"range {range.text} does not address sheet '{sheet}'"

/-- Rules attached to the cells of a range. -/
structure Attachment where
  range : CellRange
  rules : CellRules

/-- A sheet. -/
structure Sheet where
  name : String
  columns : Nat
  rows : List (List String)
  attachments : List Attachment
  ledger : Ledger
  graph : CellGraph

namespace Sheet

/-- A sheet without rows and rules. -/
def new (name : String) (columns : Nat) : Sheet := ⟨name, columns, [], [], .empty, .empty⟩

/-- The number of rows. -/
def rowCount (s : Sheet) : Nat := s.rows.length

/-- The refusal of a place outside the sheet. -/
def outside (s : Sheet) (row column : Nat) : SheetError := .outOfBounds s.name row column

/-- The text of a cell, if there is such a cell. -/
def text? (s : Sheet) (row column : Nat) : Option String := do
  let cells ← s.rows[row]?
  cells[column]?

/-- The text of a cell. -/
def valueAt (s : Sheet) (row column : Nat) : Except SheetError String :=
  match s.text? row column with
  | some text => .ok text
  | none => .error (s.outside row column)

/-- The number of a cell. -/
def cellId (s : Sheet) (row column : Nat) : Except SheetError CellId :=
  if row < s.rowCount ∧ column < s.columns then .ok (CellId.ofPlace row column s.columns)
  else .error (s.outside row column)

/-- The last verdict of a cell, if it was checked. -/
def verdictAt (s : Sheet) (row column : Nat) : Except SheetError (Option Verdict) := do
  let id ← s.cellId row column
  return s.ledger.get? id

/-- The address of a place in the sheet. -/
def addressOf (s : Sheet) (row column : Nat) : CellAddress := ⟨s.name, row, column⟩

/-- The address of a numbered cell. -/
def addressOfId (s : Sheet) (id : CellId) : CellAddress :=
  let (row, column) := s.graph.place id
  s.addressOf row column

/-- The rules on a cell, in the order in which they were attached. -/
def rulesFor (s : Sheet) (cell : CellAddress) : List CellRules :=
  (s.attachments.filter fun a => a.range.contains cell).map Attachment.rules

/-- The places of the sheet that the rules on a cell read. What they read on other sheets is found
when they run. -/
def targetsOf (s : Sheet) (row column : Nat) : List (Nat × Nat) :=
  let cell := s.addressOf row column
  (((s.rulesFor cell).flatMap CellRules.references).filter fun r =>
    r.sheet?.all (· = s.name)).map fun r =>
      let target := r.resolve cell
      (target.row, target.column)

/-- The sheet with its dependencies found anew and its verdicts forgotten. -/
def rebuild (s : Sheet) : Sheet :=
  { s with
    graph := CellGraph.build s.rowCount s.columns s.targetsOf
    ledger := Ledger.reset (s.rowCount * s.columns) }

/-- Write the text of a cell. -/
def setCell (s : Sheet) (row column : Nat) (text : String) : Except SheetError Sheet :=
  match s.text? row column with
  | some _ => .ok { s with rows := s.rows.modify row fun cells => cells.set column text }
  | none => .error (s.outside row column)

/-- Record the verdicts of cells. -/
def store (s : Sheet) (verdicts : List (CellId × Verdict)) : Sheet :=
  { s with ledger := verdicts.foldl (fun l v => l.insert v.1 v.2) s.ledger }

/-- Attach rules to a range, which must not be of another sheet. -/
def attach (s : Sheet) (range : CellRange) (rules : CellRules) : Except SheetError Sheet :=
  if range.sheet?.all (· = s.name) then
    .ok (rebuild { s with attachments := s.attachments ++ [⟨range, rules⟩] })
  else .error (.sheetMismatch s.name range)

/-- Fill a row that is not too long with empty cells. -/
def shapeRow (s : Sheet) (row : Nat) (cells : List String) : Except SheetError (List String) :=
  if s.columns < cells.length then .error (.rowShape s.name row s.columns cells.length)
  else .ok (cells ++ List.replicate (s.columns - cells.length) "")

/-- Fill rows, the first of which gets a number of the sheet, up to the first that is too long. -/
def shapeRows (s : Sheet) (row : Nat) : List (List String) → Except SheetError (List (List String))
  | [] => .ok []
  | cells :: rest => do
    let first ← s.shapeRow row cells
    let more ← s.shapeRows (row + 1) rest
    return first :: more

/-- Replace all rows. -/
def loadRows (s : Sheet) (rows : List (List String)) : Except SheetError Sheet := do
  let rows ← s.shapeRows 0 rows
  return rebuild { s with rows }

/-- Insert rows before a row, or after the last one. -/
def insertRows (s : Sheet) (place : Nat) (rows : List (List String)) : Except SheetError Sheet :=
  if s.rowCount < place then .error (s.outside place 0)
  else do
    let rows ← s.shapeRows place rows
    return rebuild { s with rows := s.rows.take place ++ rows ++ s.rows.drop place }

/-- Remove a number of rows from a row on. -/
def removeRows (s : Sheet) (place count : Nat) : Except SheetError Sheet :=
  if s.rowCount < place + count then .error (s.outside place 0)
  else .ok (rebuild { s with rows := s.rows.take place ++ s.rows.drop (place + count) })

/-- Insert a column before a column, or after the last one, with a text in every row. -/
def insertColumn (s : Sheet) (place : Nat) (fill : String) : Except SheetError Sheet :=
  if s.columns < place then .error (s.outside 0 place)
  else .ok (rebuild { s with
    rows := s.rows.map fun cells => cells.take place ++ fill :: cells.drop place
    columns := s.columns + 1 })

/-- Remove a column. -/
def removeColumn (s : Sheet) (place : Nat) : Except SheetError Sheet :=
  if s.columns ≤ place then .error (s.outside 0 place)
  else .ok (rebuild { s with
    rows := s.rows.map fun cells => cells.eraseIdx place
    columns := s.columns - 1 })

end Sheet

end GridAudit
