import GridAudit.Config
import GridAudit.Grid.Report
import GridAudit.Grid.Schedule
import GridAudit.Grid.Sheet

/-!
# Workbooks

A workbook is a list of named sheets. After every change the cells it concerns are checked: all
cells of a sheet whose shape or rules changed, and for a changed text the cell itself and the cells
that depend on it within the configured number of hops. A trial checks the same cells as if a text
had been written and writes none. A request answers with the workbook it leaves behind, also when it
is refused.
-/

namespace GridAudit

/-- Sheets in the order in which they were added, settings, and the report of the last check. -/
structure Workbook where
  sheets : List Sheet
  config : Config
  lastReport : Option Report

/-- What a request leaves: the workbook, and the answer or the refusal. -/
structure Reply (α : Type) where
  book : Workbook
  answer : Except SheetError α

/-- A text that a cell is taken to hold for the time of a check. -/
structure Trial where
  cell : CellAddress
  text : String

namespace Workbook

/-- A workbook without sheets. -/
def new (config : Config) : Workbook := ⟨[], config, none⟩

/-- The workbook with another number of hops for changes to spread. -/
def setPropagationDepth (b : Workbook) (depth : Nat) : Workbook :=
  { b with config := { b.config with propagationDepth := depth } }

/-- The sheet of a name, if there is one. -/
def sheet? (b : Workbook) (name : String) : Option Sheet := b.sheets.find? (·.name = name)

/-- The sheet of a name. -/
def sheet (b : Workbook) (name : String) : Except SheetError Sheet :=
  match b.sheet? name with
  | some s => .ok s
  | none => .error (.unknownSheet name)

/-- The workbook with a sheet in place of the one of its name. -/
def putSheet (b : Workbook) (s : Sheet) : Workbook :=
  { b with sheets := b.sheets.map fun t => if t.name = s.name then s else t }

/-- Add a sheet without rows. -/
def addSheet (b : Workbook) (name : String) (columns : Nat) : Reply Sheet :=
  if (b.sheet? name).isSome then ⟨b, .error (.duplicateSheet name)⟩
  else
    let s := Sheet.new name columns
    ⟨{ b with sheets := b.sheets ++ [s] }, .ok s⟩

/-- The names of the sheets. -/
def sheetNames (b : Workbook) : List String := b.sheets.map Sheet.name

/-- The text of a cell. -/
def valueAt (b : Workbook) (name : String) (row column : Nat) : Except SheetError String := do
  let s ← b.sheet name
  s.valueAt row column

/-- The last verdict of a cell, if it was checked. -/
def verdictAt (b : Workbook) (name : String) (row column : Nat) :
    Except SheetError (Option Verdict) := do
  let s ← b.sheet name
  s.verdictAt row column

/-- The cells connected to a cell either way. -/
def relatedCells (b : Workbook) (name : String) (row column : Nat) :
    Except SheetError (List CellAddress) := do
  let s ← b.sheet name
  let id ← s.cellId row column
  return (s.graph.related id).map s.addressOfId

/-- The text of a cell for the rules that read it. -/
def cellText (b : Workbook) : CellSource := fun a =>
  match b.sheet? a.sheet with
  | none => .error (.noSheet a.sheet)
  | some s =>
    if s.rowCount ≤ a.row then .error (.noRow a.sheet a.row)
    else match s.text? a.row a.column with
      | some text => .ok text
      | none => .error (.noColumn a.sheet a.column)

/-- The texts of cells with that of a trial laid over them. -/
def overlaid (b : Workbook) (trial : Option Trial) : CellSource := fun a =>
  match trial with
  | some t => if t.cell = a then .ok t.text else b.cellText a
  | none => b.cellText a

/-- Check a cell of a sheet. -/
def probeCell (b : Workbook) (vars : Variables) (trial : Option Trial) (s : Sheet) (id : CellId) :
    Verdict :=
  let cell := s.addressOfId id
  probe (s.rulesFor cell) ⟨b.overlaid trial, vars, cell⟩

/-- Go on with what was found, or leave the workbook as it is and refuse. -/
def goOn {α β : Type} (b : Workbook) (found : Except SheetError α) (next : α → Reply β) : Reply β :=
  match found with
  | .ok a => next a
  | .error e => ⟨b, .error e⟩

/-- Check cells of a sheet one after another, against the texts as they are, then record all
verdicts. -/
def checkCells (b : Workbook) (vars : Variables) (trial : Option Trial) (s : Sheet)
    (ids : List CellId) (propagated : Nat) : Reply Report :=
  let verdicts := ids.map fun id => (id, b.probeCell vars trial s id)
  let report := Report.ofVerdicts (verdicts.map fun v => (s.addressOfId v.1, v.2)) propagated
  ⟨{ b.putSheet (s.store verdicts) with lastReport := some report }, .ok report⟩

/-- Check every cell of a sheet, row by row. -/
def recomputeAll (b : Workbook) (vars : Variables) (name : String) : Reply Report :=
  b.goOn (b.sheet name) fun s =>
    b.checkCells vars none s ((List.range (s.rowCount * s.columns)).map CellId.ofIndex) 0

/-- Check every cell of a row. -/
def recomputeRow (b : Workbook) (vars : Variables) (name : String) (row : Nat) : Reply Report :=
  b.goOn (b.sheet name) fun s =>
    if s.rowCount ≤ row then ⟨b, .error (s.outside row 0)⟩
    else
      let ids := (List.range s.columns).map fun column => CellId.ofPlace row column s.columns
      b.checkCells vars none s ids 0

/-- Check a cell and the cells that a change of it reaches. -/
def recomputeFrom (b : Workbook) (vars : Variables) (name : String) (row column : Nat)
    (trial : Option String) : Reply Report :=
  b.goOn (b.sheet name) fun s => b.goOn (s.cellId row column) fun origin =>
    let dependents := (s.graph.schedule origin (Token.new b.config.propagationDepth)).1
    let trial := trial.map fun text => ⟨⟨name, row, column⟩, text⟩
    b.checkCells vars trial s (origin :: dependents) dependents.length

/-- Change a sheet, then check cells of the workbook. -/
def edit (b : Workbook) (name : String) (change : Sheet → Except SheetError Sheet)
    (check : Workbook → Reply Report) : Reply Report :=
  b.goOn (b.sheet name) fun s => b.goOn (change s) fun s => check (b.putSheet s)

/-- Change a sheet, then check all of it. -/
def reshape (b : Workbook) (vars : Variables) (name : String)
    (change : Sheet → Except SheetError Sheet) : Reply Report :=
  b.edit name change fun b => b.recomputeAll vars name

/-- Attach rules to a range of a sheet. -/
def attach (b : Workbook) (vars : Variables) (name : String) (range : CellRange)
    (rules : CellRules) : Reply Report :=
  b.reshape vars name fun s => s.attach range rules

/-- Replace all rows of a sheet. -/
def loadRows (b : Workbook) (vars : Variables) (name : String) (rows : List (List String)) :
    Reply Report :=
  b.reshape vars name fun s => s.loadRows rows

/-- Insert rows into a sheet. -/
def insertRows (b : Workbook) (vars : Variables) (name : String) (place : Nat)
    (rows : List (List String)) : Reply Report :=
  b.reshape vars name fun s => s.insertRows place rows

/-- Remove rows from a sheet. -/
def removeRows (b : Workbook) (vars : Variables) (name : String) (place count : Nat) :
    Reply Report :=
  b.reshape vars name fun s => s.removeRows place count

/-- Insert a column into a sheet. -/
def insertColumn (b : Workbook) (vars : Variables) (name : String) (place : Nat) (fill : String) :
    Reply Report :=
  b.reshape vars name fun s => s.insertColumn place fill

/-- Remove a column from a sheet. -/
def removeColumn (b : Workbook) (vars : Variables) (name : String) (place : Nat) : Reply Report :=
  b.reshape vars name fun s => s.removeColumn place

/-- Write the text of a cell. -/
def setValueAt (b : Workbook) (vars : Variables) (name : String) (row column : Nat)
    (text : String) : Reply Report :=
  b.edit name (fun s => s.setCell row column text) fun b =>
    b.recomputeFrom vars name row column none

/-- Check a cell and what depends on it as if it held a text. The verdicts are recorded and the text
is not written; the verdict of the cell is the answer. -/
def tryValueAt (b : Workbook) (vars : Variables) (name : String) (row column : Nat)
    (text : String) : Reply (Option Verdict) :=
  let reply := b.recomputeFrom vars name row column (some text)
  reply.book.goOn reply.answer fun _ => ⟨reply.book, reply.book.verdictAt name row column⟩

end Workbook

end GridAudit
