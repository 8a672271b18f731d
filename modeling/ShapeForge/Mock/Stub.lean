import ShapeForge.Mock.Literal
import ShapeForge.Mock.Synthesis

/-!
# Test stubs

A test for every operation of a service: it calls the operation with a synthesized input and
validates input and output.  The service comes from a variable that other tests may reassign.
-/

namespace ShapeForge.Mock

open ShapeForge.Code (Item)

structure TestedService where
  interface : String
  default : String
  operations : List (Shape × Operation)

def inputExpr (scope : Scope) (mocks : Mocks) (id : ShapeId) : Emission String := do
  if id.isUnit then return "&" ++ Naming.unitType ++ "\x7b\x7d"
  let value ← Emission.liftFault (mocks.ofStructure id)
  let expr ← value.fieldExpr scope
  return expr.text

def testItem (interface hook method input : String) : Item :=
  .func ("Test" ++ interface ++ "_" ++ method) ("(t *testing.T) \x7b\n" ++
    "svc := " ++ hook ++ "()\n" ++
    "input := " ++ input ++ "\n" ++
    "if err := input.Validate(); err != nil \x7b\n" ++
    "t.Fatalf(\"synthesized input is invalid: %v\", err)\n\x7d\n" ++
    "output, err := svc." ++ method ++ "(context.Background(), input)\n" ++
    "if err != nil \x7b\nt.Fatalf(\"" ++ method ++ ": %v\", err)\n\x7d\n" ++
    "if err := output.Validate(); err != nil \x7b\n" ++
    "t.Fatalf(\"output is invalid: %v\", err)\n\x7d\n" ++
    "\x7d")

def operationTests (scope : Scope) (mocks : Mocks) (service : TestedService) :
    List (Shape × Operation) → Emission (List Item)
  | [] => return []
  | (shape, operation) :: rest => do
    let input ← inputExpr scope mocks operation.input
    let first := testItem service.interface (Naming.hookName service.interface)
      (Naming.declName shape.id) input
    return .blank :: first :: (← operationTests scope mocks service rest)

def serviceTests (scope : Scope) (mocks : Mocks) (service : TestedService) :
    Emission (List Item) := do
  let hook := Naming.hookName service.interface
  let tests ← operationTests scope mocks service service.operations
  return [.comment [" " ++ hook ++ " returns the " ++ service.interface ++
      " exercised by the tests below."],
    .var hook ("= func() " ++ service.interface ++ " \x7b return " ++ service.default ++ " \x7d")] ++
    tests ++ [.blank]

def allServiceTests (scope : Scope) (mocks : Mocks) : List TestedService → Emission (List Item)
  | [] => return []
  | service :: rest => do
    let first ← serviceTests scope mocks service
    return first ++ (← allServiceTests scope mocks rest)

def testItems (scope : Scope) (mocks : Mocks) (services : List TestedService) :
    Emission (List Item) := do
  Emission.use "context"
  Emission.use "testing"
  allServiceTests scope mocks services

def testStubs (scope : Scope) (mocks : Mocks) (services : List TestedService) :
    Emission String := do
  return Code.text (← testItems scope mocks services)

end ShapeForge.Mock
