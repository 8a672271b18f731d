import ShapeForge.Text.Blank

/-!
# Tables

Rows of cells in aligned columns.  Cells of a column are aligned over neighbouring rows that go on
behind it: all are padded to the widest of them, with a gap of two spaces.  The last cell of a row
is not padded, and an empty cell is shown as a hyphen.
-/

namespace ShapeForge.Table

def gap : Nat := 2

/-- The greatest width in front of the first row that has no cell in the column. -/
def widest (best : Nat) : List (Option Nat) → Nat
  | some width :: rest => widest (max best width) rest
  | _ => best

/-- The common width of neighbouring cells, for every row that has one. -/
def commonWidths (current : Option Nat) : List (Option Nat) → List (Option Nat)
  | [] => []
  | none :: rest => none :: commonWidths none rest
  | some width :: rest =>
    let common := current.getD (widest width rest)
    some common :: commonWidths (some common) rest

/-- The width of the first cell of a row that goes on behind it. -/
def padded? : List String → Option Nat
  | cell :: _ :: _ => some cell.length
  | _ => none

def pad (width : Nat) (cell : String) : String :=
  cell ++ String.ofList (List.replicate (width + gap - cell.length) ' ')

/-- The first cell of a row, padded to the width of its column if it has one. -/
def firstCell (width : Option Nat) (row : List String) : String :=
  match row, width with
  | cell :: _, some width => pad width cell
  | cell :: _, none => cell
  | [], _ => ""

/-- The lines of rows, of which the longest has at most so many cells. -/
def align : Nat → List (List String) → List String
  | 0, rows => rows.map fun _ => ""
  | count + 1, rows =>
    let firsts := List.zipWith firstCell (commonWidths none (rows.map padded?)) rows
    List.zipWith (· ++ ·) firsts (align count (rows.map List.tail))

def alignLines (rows : List (List String)) : String :=
  String.join ((align ((rows.map List.length).foldl max 0) rows).map (· ++ "\n"))

def shown (cell : String) : String :=
  if cell.isEmpty then "-" else cell

def rowText (indent : String) (cells : List String) : String :=
  indent ++ "\t".intercalate (cells.map shown) ++ "\n"

/-- The cells of a line of text; both kinds of tabs end a cell. -/
def cellsOf (line : List Char) : List String :=
  (Text.splitWhere (fun c => c == '\t' || c.toNat == 11) line).map String.ofList

/-- The text of a table whose rows are indented.  A form feed ends a line and all columns. -/
def render (indent : String) (rows : List (List String)) : String :=
  let text := (String.join (rows.map (rowText indent))).toList
  let pages := Text.splitWhere (·.toNat == 12) text
  String.join (pages.dropLast.map fun page =>
    alignLines ((Text.splitWhere (· == '\n') page).map cellsOf)) ++
  alignLines (((Text.splitWhere (· == '\n') (pages.getLast?.getD [])).dropLast).map cellsOf)

end ShapeForge.Table
