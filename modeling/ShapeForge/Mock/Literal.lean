import ShapeForge.Code.Expr
import ShapeForge.Mock.Value
import ShapeForge.Types.Scope

/-!
# Instances as expressions

An instance is written as an expression of its own type, and as the value of a field, where
structures are addressed and everything that has no absent value goes through a pointer.
-/

namespace ShapeForge.MockValue

open ShapeForge.Code (Expr)

def asField (value : MockValue) (expr : Expr) : Expr :=
  match value with
  | .structure _ _ => .address expr
  | .list _ _ => expr
  | .map _ _ => expr
  | .blob _ _ _ => expr
  | _ => .pointer expr

def kindType (kind : Option SimpleKind) : String :=
  (kind.map SimpleKind.goType).getD ""

/-- A scalar of the prelude is written as it is, one of the model is converted to its type. -/
def typed (scope : Scope) (shape : ShapeId) (expr : Expr) : Emission Expr := do
  if shape.isPrelude then return expr
  return .convert (← scope.qualify shape) expr

mutual

def expr (scope : Scope) : MockValue → Emission Expr
  | .string shape _ text => typed scope shape (.string text)
  | .int shape kind number =>
    typed scope shape
      (if kind == some .integer then .int number
      else .convert (kindType kind) (.int number))
  | .float shape kind number => typed scope shape (.convert (kindType kind) (.float number))
  | .bool shape _ value => typed scope shape (.bool value)
  | .timestamp shape _ => do
    Emission.use "time"
    typed scope shape .now
  | .blob shape _ text => typed scope shape (.bytes text)
  | .enumeration shape member _ _ => do
    return .constant (← scope.qualifyName shape (Naming.enumConstName shape member))
  | .structure shape fields => do
    let declared ← Emission.liftFault (scope.model.resolveStructure shape)
    let type ← scope.qualify shape
    return .structure type (← fieldExprs scope declared fields)
  | .list shape items => do
    let type ← scope.qualify shape
    return .list type (← itemExprs scope items)
  | .map shape entries => do
    let type ← scope.qualify shape
    return .map type (← entryExprs scope entries)
  | .unknown shape number =>
    throw (.plain s!"mockdata: cannot render {number} value of {shape}")

def fieldExprs (scope : Scope) (declared : Shape) :
    List (Member × MockValue) → Emission (List (String × Expr))
  | [] => return []
  | (member, value) :: rest => do
    let first := value.asField (← expr scope value)
    return (Naming.memberField declared member, first) :: (← fieldExprs scope declared rest)

def itemExprs (scope : Scope) : List MockValue → Emission (List Expr)
  | [] => return []
  | item :: rest => do
    let first ← expr scope item
    return first :: (← itemExprs scope rest)

def entryExprs (scope : Scope) : List (MockValue × MockValue) → Emission (List (Expr × Expr))
  | [] => return []
  | (key, value) :: rest => do
    let first ← expr scope key
    let second ← expr scope value
    return (first, second) :: (← entryExprs scope rest)

end

def fieldExpr (scope : Scope) (value : MockValue) : Emission Expr := do
  return value.asField (← expr scope value)

end ShapeForge.MockValue
