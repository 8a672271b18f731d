import ShapeForge.Shape.Basic
import ShapeForge.Text.Order

/-!
# Models

A model is a list of shapes in the order in which they were loaded, with the version of the
language it was written in.  Models can be merged when they share no shape, and restricted to
some of their namespaces.
-/

namespace ShapeForge

structure Model where
  version : String := ""
  shapes : List Shape := []
  deriving Repr, Inhabited, DecidableEq

namespace Model

def ids (model : Model) : List ShapeId :=
  model.shapes.map (·.id)

def size (model : Model) : Nat :=
  model.shapes.length

def lookup? (model : Model) (id : ShapeId) : Option Shape :=
  model.shapes.find? (·.id == id)

def defines (model : Model) (id : ShapeId) : Bool :=
  (model.lookup? id).isSome

def resolve (model : Model) (id : ShapeId) : Except Fault Shape :=
  match model.lookup? id with
  | some shape => .ok shape
  | none => .error (.reference id.text "" "")

def wrongKind (shape : Shape) (id : ShapeId) : Fault :=
  .reference id.text "" ("shape is a " ++ shape.kind.name)

def resolveKind (model : Model) (kind : ShapeKind) (id : ShapeId) : Except Fault Shape := do
  let shape ← model.resolve id
  if shape.kind == kind then return shape else throw (wrongKind shape id)

def resolveOperation (model : Model) (id : ShapeId) : Except Fault (Shape × Operation) := do
  let shape ← model.resolve id
  match shape.body with
  | .operation operation => return (shape, operation)
  | _ => throw (wrongKind shape id)

def resolveResource (model : Model) (id : ShapeId) : Except Fault Resource := do
  let shape ← model.resolve id
  match shape.body with
  | .resource resource => return resource
  | _ => throw (wrongKind shape id)

def resolveService (model : Model) (id : ShapeId) : Except Fault (Shape × Service) := do
  let shape ← model.resolve id
  match shape.body with
  | .service service => return (shape, service)
  | _ => throw (wrongKind shape id)

def resolveStructure (model : Model) (id : ShapeId) : Except Fault Shape :=
  model.resolveKind .struct id

def ofKind (model : Model) (kind : ShapeKind) : List Shape :=
  model.shapes.filter (·.kind == kind)

def services (model : Model) : List (Shape × Service) :=
  model.shapes.filterMap fun shape => shape.service?.map (shape, ·)

def inSpace (shapes : List Shape) (space : String) : List Shape :=
  shapes.filter (·.id.nameSpace == space)

def namespaces (model : Model) : List String :=
  Text.sortedDistinct (model.shapes.map (·.id.nameSpace))

def addAll : List Shape → List Shape → Except Fault (List Shape)
  | present, [] => .ok present
  | present, shape :: rest =>
    if present.any (·.id == shape.id) then .error (.duplicateShape shape.id.text)
    else addAll (present ++ [shape]) rest

/-- The model with the shapes of others added; no shape may be defined twice. -/
def merge (model : Model) (others : List Model) : Except Fault Model := do
  let shapes ← addAll [] (model.shapes ++ others.flatMap (·.shapes))
  return { model with shapes }

def only (model : Model) (spaces : List String) : Model :=
  { model with shapes := model.shapes.filter fun shape => spaces.contains shape.id.nameSpace }

end Model

end ShapeForge
