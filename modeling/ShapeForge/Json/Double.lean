import ShapeForge.Decimal.Shortest
import ShapeForge.Json.Basic

/-!
# Numbers in double precision

A reader that keeps numbers in double precision loses their literals.  What it writes back is the
shortest literal of the number that it kept.
-/

namespace ShapeForge.Json

def doubleLiteral (literal : String) : String :=
  match Decimal.rounded? literal with
  | some value => value.scientific Decimal.Notation.json
  | none => literal

mutual

def inDouble : Json → Json
  | .number literal => .number (doubleLiteral literal)
  | .array items => .array (inDoubleItems items)
  | .object fields => .object (inDoubleFields fields)
  | value => value

def inDoubleItems : List Json → List Json
  | [] => []
  | item :: rest => inDouble item :: inDoubleItems rest

def inDoubleFields : List (String × Json) → List (String × Json)
  | [] => []
  | (key, value) :: rest => (key, inDouble value) :: inDoubleFields rest

end

end ShapeForge.Json
