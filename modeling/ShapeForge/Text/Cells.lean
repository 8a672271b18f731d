/-!
# Cells

A line of cells between commas.  A cell may stand between quotation marks, and then hold commas;
a quotation mark inside of it is written twice.
-/

namespace ShapeForge.Text

inductive CellProblem where
  /-- A quotation mark inside a cell that does not start with one. -/
  | bareQuote (column : Nat)
  /-- A quotation mark that neither ends a cell nor is doubled, or none where a cell needs one. -/
  | strayQuote (column : Nat)
  deriving Repr, DecidableEq

namespace CellProblem

def message : CellProblem → String
  | .bareQuote column =>
    "parse error on line 1, column " ++ toString column ++ ": bare \" in non-quoted field"
  | .strayQuote column =>
    "parse error on line 1, column " ++ toString column ++
      ": extraneous or missing \" in quoted-field"

end CellProblem

inductive CellState where
  | start
  | plain
  | quoted
  | closing
  deriving Repr, DecidableEq

/-- Read cells; the characters of the current cell stand in reverse. -/
def cellsFrom (state : CellState) (column : Nat) (cell : List Char) :
    List Char → Except CellProblem (List String)
  | [] =>
    if state == .quoted then .error (.strayQuote column)
    else .ok [String.ofList cell.reverse]
  | c :: rest =>
    let next := column + c.utf8Size
    let finish : Except CellProblem (List String) := do
      return String.ofList cell.reverse :: (← cellsFrom .start next [] rest)
    match state with
    | .start =>
      if c == '"' then cellsFrom .quoted next [] rest
      else if c == ',' then finish
      else cellsFrom .plain next [c] rest
    | .plain =>
      if c == ',' then finish
      else if c == '"' then .error (.bareQuote column)
      else cellsFrom .plain next (c :: cell) rest
    | .quoted =>
      if c == '"' then cellsFrom .closing next cell rest
      else cellsFrom .quoted next (c :: cell) rest
    | .closing =>
      if c == ',' then finish
      else if c == '"' then cellsFrom .quoted next (c :: cell) rest
      else .error (.strayQuote (column - 1))

/-- The cells of a line; an empty line has none. -/
def cells (line : String) : Except CellProblem (List String) :=
  if line.isEmpty then .ok [] else cellsFrom .start 1 [] line.toList

end ShapeForge.Text
