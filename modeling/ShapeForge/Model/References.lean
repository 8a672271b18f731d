import ShapeForge.Model.Basic

/-!
# References between shapes

Every shape refers to others; a reference dangles when its target is neither defined nor part of
the prelude.  `Model.check` reports all dangling references in load order.
-/

namespace ShapeForge

structure Reference where
  origin : ShapeId
  target : ShapeId
  deriving Repr, DecidableEq, Inhabited

namespace Member

def reference (member : Member) : Reference :=
  { origin := member.id, target := member.target }

end Member

namespace Shape

def references (shape : Shape) : List Reference :=
  let all (targets : List ShapeId) : List Reference :=
    targets.map fun target => { origin := shape.id, target }
  match shape.body with
  | .simple _ => []
  | .enumeration _ _ => []
  | .structure members => members.map Member.reference
  | .list member => [member.reference]
  | .map key value => [key.reference, value.reference]
  | .operation operation => all (operation.input :: operation.output :: operation.errors)
  | .resource resource =>
    resource.identifiers.map (fun (name, target) =>
      { origin := shape.id.withMember name, target }) ++
      all (resource.bound ++ resource.resources)
  | .service service => all (service.operations ++ service.resources ++ service.errors)

end Shape

namespace Model

/-- Whether a target needs no definition or has one. -/
def accepts (model : Model) (target : ShapeId) : Bool :=
  target.isEmpty || target.isPrelude || model.defines target

def references (model : Model) : List Reference :=
  model.shapes.flatMap Shape.references

def dangling (model : Model) : List Reference :=
  model.references.filter fun reference => !model.accepts reference.target

end Model

namespace Reference

def fault (reference : Reference) : Fault :=
  .reference reference.target.text reference.origin.text ""

end Reference

namespace Model

def check (model : Model) : Except Fault Unit :=
  match Fault.join (model.dangling.map Reference.fault) with
  | none => .ok ()
  | some fault => .error fault

end Model

end ShapeForge
