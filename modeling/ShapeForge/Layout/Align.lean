import ShapeForge.Layout.Token

/-!
# Columns

Lines of code are rows of cells.  Adjacent rows of one section are aligned: each cell but the last
is padded to the width of its column.
-/

namespace ShapeForge.Layout

structure Row where
  indent : Nat
  cells : List String
  /-- Adjacent rows of the same section are aligned. -/
  part : Nat
  deriving Repr, Inhabited, DecidableEq

def blanks (count : Nat) : String :=
  String.ofList (List.replicate count ' ')

def widths : List (List String) → List Nat
  | [] => []
  | row :: rest => widen (row.dropLast.map String.length) (widths rest)
where
  widen : List Nat → List Nat → List Nat
    | [], others => others
    | mine, [] => mine
    | width :: mine, other :: others => max width other :: widen mine others

def padded : List Nat → List String → String
  | _, [] => ""
  | _, [cell] => cell
  | [], cell :: rest => cell ++ " " ++ padded [] rest
  | width :: more, cell :: rest =>
    cell ++ blanks (width - cell.length + 1) ++ padded more rest

def Row.text (columns : List Nat) (row : Row) : String :=
  let line := padded columns row.cells
  if line.isEmpty then "" else String.ofList (List.replicate row.indent '\t') ++ line

def spanPart (part : Nat) (rows : List Row) : List Row × List Row :=
  rows.span fun row => row.part == part && row.cells.length > 1

/-- The texts of rows with aligned columns.  The fuel bounds the number of rows. -/
def alignRows : Nat → List Row → List String
  | 0, _ => []
  | _ + 1, [] => []
  | fuel + 1, row :: rest =>
    if row.cells.length > 1 then
      let (more, after) := spanPart row.part rest
      let rows := row :: more
      let columns := widths (rows.map (·.cells))
      rows.map (Row.text columns) ++ alignRows fuel after
    else row.text [] :: alignRows fuel rest

def rowTexts (rows : List Row) : List String :=
  alignRows rows.length rows

structure KeySizes where
  product : Nat := 1
  count : Nat := 0
  last : Nat := 0
  deriving Repr, Inhabited, DecidableEq

namespace KeySizes

def small : Nat := 40

/-- Whether a size is more than two and a half times away from the geometric mean. -/
def isFar (sizes : KeySizes) (size : Nat) : Bool :=
  sizes.product * Nat.pow 5 sizes.count ≤ Nat.pow (2 * size) sizes.count ||
    Nat.pow (5 * size) sizes.count ≤ sizes.product * Nat.pow 2 sizes.count

/-- Whether an entry with a key of a size is aligned with the entry before. -/
def joins (sizes : KeySizes) (size : Nat) : Bool :=
  sizes.last > 0 && size > 0 &&
    (sizes.count == 0 || (sizes.last ≤ small && size ≤ small) || !sizes.isFar size)

def add (sizes : KeySizes) (size : Nat) : KeySizes :=
  let before := if sizes.joins size then sizes else {}
  if size == 0 then { before with last := 0 }
  else { product := before.product * size, count := before.count + 1, last := size }

end KeySizes

end ShapeForge.Layout
