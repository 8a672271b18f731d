import ShapeForge.Listing
import ShapeForge.Model.Operations
import ShapeForge.Route

/-!
# Summaries

What a model holds in brief: how many shapes there are of each kind, and the operations of its
services with their routes.
-/

namespace ShapeForge

structure OperationRoute where
  method : String
  uri : String
  code : Int
  deriving Repr, DecidableEq

structure OperationSummary where
  id : ShapeId
  input : ShapeId
  output : ShapeId
  route : Option OperationRoute
  deriving Repr, DecidableEq

structure ServiceSummary where
  id : ShapeId
  version : String
  operations : List OperationSummary
  deriving Repr, DecidableEq

namespace OperationSummary

def routeOf (shape : Shape) : Except Fault (Option OperationRoute) := do
  match ← shape.traits.http? with
  | none => return none
  | some binding =>
    let method ← Route.normalizeMethod shape.id binding.method
    return some { method, uri := binding.uri, code := binding.code }

def ofOperation (item : Shape × Operation) : Except Fault OperationSummary := do
  let (shape, operation) := item
  return { id := shape.id, input := operation.input, output := operation.output,
           route := ← routeOf shape }

end OperationSummary

namespace ServiceSummary

def ofService (model : Model) (item : Shape × Service) : Except Fault ServiceSummary := do
  let (shape, service) := item
  let operations ← (model.serviceOperations service).mapError
    (.context ("service " ++ shape.id.text))
  return { id := shape.id, version := service.version,
           operations := ← operations.mapM OperationSummary.ofOperation }

end ServiceSummary

def Model.kindCounts (model : Model) : List Listing.Group :=
  Listing.countBy model.shapes (·.kind.name)

end ShapeForge
