import GridAudit.Number.Whole
import GridAudit.Text.Blank

/-!
# Addresses of cells

An address is written `sheet:row:column`, with rows and columns counted from zero and `*` in place
of a part left open. A range is a set of cells when rules are attached to it, and a reference when
a rule reads it, where an open part is that of the cell being checked. Only the range that leaves
all three parts open leaves its sheet open.
-/

namespace GridAudit

/-- One cell. -/
structure CellAddress where
  sheet : String
  row : Nat
  column : Nat
  deriving DecidableEq, Inhabited

/-- The text of a cell's address. -/
def CellAddress.text (a : CellAddress) : String :=
  a.sheet ++ ":" ++ toString a.row ++ ":" ++ toString a.column

/-- An address with open parts. -/
inductive CellRange where
  /-- Any cell at all. -/
  | any
  /-- Cells of one sheet, each of row and column given or open. -/
  | within (sheet : String) (row column : Option Nat)
  deriving DecidableEq, Inhabited

/-- A direction in which cells are counted. -/
inductive Axis where
  | row
  | column
  deriving DecidableEq

/-- The name of a direction. -/
def Axis.name : Axis → String
  | .row => "row"
  | .column => "column"

/-- Why a text is no address. -/
inductive AddressError where
  /-- It has fewer than three parts, or its sheet has no name. -/
  | malformed (text : String)
  /-- A row or column is no number. -/
  | badIndex (axis : Axis) (text : String)
  /-- A row or column is given and the sheet is open. -/
  | openSheet (text : String)
  deriving DecidableEq

/-- The wording of an address error. -/
def AddressError.message : AddressError → String
  | .malformed text => s!"address '{text}' is not of the form <sheet>:<row>:<column>"
  | .badIndex axis text => s!"{axis.name} '{text}' is neither an index nor '*'"
  | .openSheet text => s!"address '{text}' names a row or column but not a sheet"

namespace CellRange

/-- The sheet, unless it is open. -/
def sheet? : CellRange → Option String
  | .any => none
  | .within sheet _ _ => some sheet

/-- The row, unless it is open. -/
def row? : CellRange → Option Nat
  | .any => none
  | .within _ row _ => row

/-- The column, unless it is open. -/
def column? : CellRange → Option Nat
  | .any => none
  | .within _ _ column => column

/-- The range of one cell. -/
def ofCell (a : CellAddress) : CellRange := .within a.sheet (some a.row) (some a.column)

/-- The range of a whole sheet. -/
def ofSheet (sheet : String) : CellRange := .within sheet none none

/-- The text of a row or column that may be open. -/
def indexText : Option Nat → String
  | some n => toString n
  | none => "*"

/-- The text of three parts that may be open. -/
def partsText (sheet : Option String) (row column : Option Nat) : String :=
  sheet.getD "*" ++ ":" ++ indexText row ++ ":" ++ indexText column

/-- The text of a range. -/
def text (r : CellRange) : String := partsText r.sheet? r.row? r.column?

/-- The range of the given parts; with an open sheet the other parts must be open too. -/
def ofParts (sheet : Option String) (row column : Option Nat) : Except AddressError CellRange :=
  match sheet, row, column with
  | some sheet, row, column => .ok (.within sheet row column)
  | none, none, none => .ok .any
  | none, row, column => .error (.openSheet (partsText none row column))

/-- Whether a range covers a cell. -/
def contains (r : CellRange) (a : CellAddress) : Bool :=
  r.sheet?.all (· = a.sheet) && r.row?.all (· = a.row) && r.column?.all (· = a.column)

/-- The cell a reference means, read from a cell that fills its open parts. -/
def resolve (r : CellRange) (origin : CellAddress) : CellAddress :=
  ⟨r.sheet?.getD origin.sheet, r.row?.getD origin.row, r.column?.getD origin.column⟩

/-- What stands before and after the last occurrence of a character. -/
def cutLast (mark : Char) : List Char → Option (List Char × List Char)
  | [] => none
  | c :: rest => match cutLast mark rest with
    | some (before, after) => some (c :: before, after)
    | none => if c = mark then some ([], rest) else none

/-- Read a row or column: `*`, or an index among blanks. -/
def readIndex (axis : Axis) (cs : List Char) : Except AddressError (Option Nat) :=
  if cs = ['*'] then .ok none
  else match Number.index? (Text.trimChars cs) with
    | some n => .ok (some n)
    | none => .error (.badIndex axis (String.ofList cs))

/-- The three parts of an address, parted at its last two colons, so that the name of a sheet may
hold colons. -/
def cutParts (cs : List Char) : Option (List Char × List Char × List Char) :=
  match cutLast ':' cs with
  | none => none
  | some (front, column) => match cutLast ':' front with
    | none => none
    | some (sheet, row) => if sheet.isEmpty then none else some (sheet, row, column)

/-- Read an address. -/
def parse (s : String) : Except AddressError CellRange :=
  match cutParts s.toList with
  | none => .error (.malformed s)
  | some (sheet, row, column) => do
    let row ← readIndex .row row
    let column ← readIndex .column column
    let sheet := if sheet = ['*'] then none else some (String.ofList sheet)
    (ofParts sheet row column).mapError fun _ => .openSheet s

/-- The order of parts that may be open: the open one first. -/
def openFirst {α : Type} (lt : α → α → Bool) : Option α → Option α → Ordering
  | none, none => .eq
  | none, some _ => .lt
  | some _, none => .gt
  | some x, some y => if lt x y then .lt else if lt y x then .gt else .eq

/-- The order of ranges: by sheet, then row, then column, the open part first. -/
def order (r s : CellRange) : Ordering :=
  (openFirst (fun x y => x < y) r.sheet? s.sheet?).then
    ((openFirst (fun x y => x < y) r.row? s.row?).then
      (openFirst (fun x y => x < y) r.column? s.column?))

/-- Ranges in order. -/
def sort (rs : List CellRange) : List CellRange := rs.mergeSort fun r s => (order r s).isLE

/-- The ranges without repeats, each where it first occurs. -/
def distinct (rs : List CellRange) : List CellRange :=
  rs.foldl (fun kept r => if kept.contains r then kept else kept ++ [r]) []

end CellRange

end GridAudit
