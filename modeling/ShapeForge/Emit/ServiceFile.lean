import ShapeForge.Emit.Build
import ShapeForge.Mock.Stub

/-!
# Interfaces and mocks

Every service becomes an interface with a method for every operation, and a mock that answers
with synthesized instances.
-/

namespace ShapeForge.Emit

open ShapeForge.Code (Item)

/-- A service with the name of its interface and all its operations. -/
structure ServiceInfo where
  shape : Shape
  service : Service
  name : String
  operations : List (Shape × Operation)

def servicesOf (model : Model) : List (Shape × Service) → Except Fault (List ServiceInfo)
  | [] => .ok []
  | (shape, service) :: rest => do
    let operations ← model.serviceOperations service
    return { shape, service, name := Naming.declName shape.id, operations } ::
      (← servicesOf model rest)

def signature (emitter : Emitter) (operation : Operation) : Build (String × String) := do
  let input ← Build.emit (emitter.scope.ioType operation.input)
  let output ← Build.emit (emitter.scope.ioType operation.output)
  return (input, output)

def distinct : List ShapeId → List ShapeId
  | [] => []
  | id :: rest => id :: (distinct rest).filter (· != id)

def errorType (emitter : Emitter) (id : ShapeId) : Build String := do
  let _ ← Build.check (emitter.model.resolveStructure id)
  return "*" ++ (← Build.emit (emitter.scope.qualify id))

/-- The types of the errors that an operation may return: its own, then those of the service. -/
def operationErrors (emitter : Emitter) (info : ServiceInfo) (operation : Operation) :
    Build (List String) :=
  Build.each (errorType emitter) (distinct (operation.errors ++ info.service.errors))

def methodText (emitter : Emitter) (info : ServiceInfo) (item : Shape × Operation) :
    Build String := do
  let (shape, operation) := item
  let (input, output) ← signature emitter operation
  let errors ← operationErrors emitter info operation
  let method := Naming.declName shape.id
  return "".intercalate ((shapeDoc shape method).map ("\t" ++ Code.commentLine ·)) ++
    (if errors.isEmpty then ""
    else "\t//\n\t// Errors: " ++ ", ".intercalate errors ++ ".\n") ++
    "\t" ++ method ++ "(ctx context.Context, input *" ++ input ++ ") (*" ++ output ++
    ", error)\n"

def versionName (interface : String) : String :=
  interface ++ "Version"

def interfaceItems (emitter : Emitter) (info : ServiceInfo) : Build (List Item) := do
  let methods ← Build.each (methodText emitter info) info.operations
  let version := info.service.version
  return (if version.isEmpty then []
    else
      [.comment [" " ++ versionName info.name ++ " is the API version of " ++ info.name ++ "."],
        .const (versionName info.name) (Text.quote version),
        .blank]) ++
    [.comment (shapeDoc info.shape info.name),
      .type info.name ("interface \x7b\n" ++ "\n".intercalate methods ++ "\x7d"),
      .blank]

def serviceBody (emitter : Emitter) (services : List ServiceInfo) : Build (List Item) := do
  Build.emit (Emission.use "context")
  return (← Build.each (interfaceItems emitter) services).flatten

def mockName (interface : String) : String :=
  "Mock" ++ interface

def constructorName (type : String) : String :=
  "New" ++ type

def mockOutput (emitter : Emitter) (operation : Operation) : Build String :=
  Build.emit (Mock.inputExpr emitter.scope emitter.mocks operation.output)

def mockMethod (emitter : Emitter) (mock : String) (item : Shape × Operation) :
    Build (List Item) := do
  let (shape, operation) := item
  let (input, output) ← signature emitter operation
  let expr ← mockOutput emitter operation
  let method := Naming.declName shape.id
  return [.blank,
    .comment [" " ++ method ++ " returns a synthesized " ++ output ++ "."],
    .method ("m *" ++ mock) method ("(ctx context.Context, input *" ++ input ++
      ") (*" ++ output ++ ", error) \x7b\nreturn " ++ expr ++ ", nil\n\x7d")]

def mockItems (emitter : Emitter) (info : ServiceInfo) : Build (List Item) := do
  let mock := mockName info.name
  let methods ← Build.each (mockMethod emitter mock) info.operations
  return [.comment [" " ++ mock ++ " implements " ++ info.name ++ " with synthesized responses."],
    .type mock "struct\x7b\x7d",
    .blank,
    .var "_" (info.name ++ " = (*" ++ mock ++ ")(nil)"),
    .blank,
    .comment [" " ++ constructorName mock ++ " returns a " ++ mock ++ "."],
    .func (constructorName mock)
      ("() *" ++ mock ++ " \x7b\nreturn &" ++ mock ++ "\x7b\x7d\n\x7d")] ++
    methods.flatten ++ [.blank]

def pointerItems : List Item :=
  [.comment [" " ++ Code.pointerFunction ++ " returns a pointer to v."],
    .func Code.pointerFunction "[T any](v T) *T \x7b\n\treturn &v\n\x7d"]

def mockBody (emitter : Emitter) (services : List ServiceInfo) : Build (List Item) := do
  Build.emit (Emission.use "context")
  return (← Build.each (mockItems emitter) services).flatten ++ pointerItems

def testBody (emitter : Emitter) (services : List ServiceInfo) : Build (List Item) :=
  Build.emit (Mock.testItems emitter.scope emitter.mocks (services.map fun info =>
    { interface := info.name
      default := constructorName (mockName info.name) ++ "()"
      operations := info.operations }))

end ShapeForge.Emit
