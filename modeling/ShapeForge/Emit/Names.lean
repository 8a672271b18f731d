import ShapeForge.Emit.HttpFile

/-!
# Names of declarations

The declarations of a package need distinct names.  Every name that is declared has an owner, and
a second owner is a collision.
-/

namespace ShapeForge.Emit

structure Declared where
  name : String
  owner : String
  deriving DecidableEq, Repr, Inhabited

def reserved : List Declared :=
  [⟨Naming.unitType, "the generated Unit type"⟩,
    ⟨Naming.requiredErrorType, "the generated validator error"⟩]

def shapeNames (shape : Shape) : List Declared :=
  let id := shape.id.text
  let name := Naming.declName shape.id
  ⟨name, id⟩ :: match shape.body with
    | .enumeration _ members =>
      ⟨name ++ "Values", id⟩ :: members.map fun member =>
        ⟨Naming.enumConstName shape.id member.name, (shape.id.withMember member.name).text⟩
    | .simple _ => if shape.traits.pattern?.isSome then [⟨name ++ "Pattern", id⟩] else []
    | _ => []

def ServiceInfo.hasRoutes (info : ServiceInfo) : Bool :=
  info.operations.any fun (shape, _) => shape.traits.has Trait.http

def serviceNames (info : ServiceInfo) : List Declared :=
  let owner := "service " ++ info.shape.id.text
  let mock := mockName info.name
  let handler := handlerName info.name
  ([info.name, mock, "New" ++ mock] ++
    (if info.service.version.isEmpty then [] else [info.name ++ "Version"]) ++
    (if info.hasRoutes then [handler, "New" ++ handler] else [])).map (⟨·, owner⟩)

def checkNames (space : String) (before : List Declared) : List Declared → Except Fault Unit
  | [] => .ok ()
  | declared :: rest =>
    match before.find? (·.name == declared.name) with
    | some first => .error (.nameCollision space declared.name first.owner declared.owner)
    | none => checkNames space (declared :: before) rest

def packageNames (shapes : List Shape) (services : List ServiceInfo) : List Declared :=
  shapes.flatMap shapeNames ++ services.flatMap serviceNames

def checkPackageNames (space : String) (shapes : List Shape) (services : List ServiceInfo) :
    Except Fault Unit :=
  checkNames space reserved (packageNames shapes services)

end ShapeForge.Emit
