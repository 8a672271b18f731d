import ShapeForge.Decimal.Basic
import ShapeForge.Text.Quoted

/-!
# Expressions of generated code

The expressions that instances are written as: literals, conversions, pointers and composite
literals with one element on a line.
-/

namespace ShapeForge.Code

inductive Expr where
  | constant (name : String)
  | string (text : String)
  | int (number : Int)
  | float (number : Decimal)
  | bool (value : Bool)
  | now
  | bytes (text : String)
  | convert (type : String) (value : Expr)
  | pointer (value : Expr)
  | address (value : Expr)
  | structure (type : String) (fields : List (String × Expr))
  | list (type : String) (items : List Expr)
  | map (type : String) (entries : List (Expr × Expr))
  deriving Repr, Inhabited

/-- The function that emitted code calls for a pointer to a copy. -/
def pointerFunction : String := "mockPtr"

namespace Expr

mutual

def text : Expr → String
  | .constant name => name
  | .string text => Text.quote text
  | .int number => toString number
  | .float number => number.plain
  | .bool value => if value then "true" else "false"
  | .now => "time.Now()"
  | .bytes text => "[]byte(" ++ Text.quote text ++ ")"
  | .convert type value => type ++ "(" ++ text value ++ ")"
  | .pointer value => pointerFunction ++ "(" ++ text value ++ ")"
  | .address value => "&" ++ text value
  | .structure type fields => type ++ "\x7b\n" ++ fieldLines fields ++ "\x7d"
  | .list type items => type ++ "\x7b\n" ++ itemLines items ++ "\x7d"
  | .map type entries => type ++ "\x7b\n" ++ entryLines entries ++ "\x7d"

def fieldLines : List (String × Expr) → String
  | [] => ""
  | (name, value) :: rest => name ++ ": " ++ text value ++ ",\n" ++ fieldLines rest

def itemLines : List Expr → String
  | [] => ""
  | item :: rest => text item ++ ",\n" ++ itemLines rest

def entryLines : List (Expr × Expr) → String
  | [] => ""
  | (key, value) :: rest => text key ++ ": " ++ text value ++ ",\n" ++ entryLines rest

end

end Expr

end ShapeForge.Code
