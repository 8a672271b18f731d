import ShapeForge.Document.Read
import ShapeForge.Model.Basic

/-!
# Models from documents

A model document is an object with the shapes by identifier.  Each shape states its type, its
traits and what belongs to its kind.  The first part that is not as it should be ends the
loading, and is reported with its place.
-/

namespace ShapeForge.Load

open ShapeForge.Document (Value)
open ShapeForge.Yaml (Position)

abbrev Field := String × Position × Value

/-- A problem with a value, placed where the value stands. -/
def problem (source : String) (value : Option Value) (text : String) : Fault :=
  match value with
  | some value => .parse source value.position.line value.position.column text none
  | none => .parse source 0 0 text none

def identifier (source : String) (position : Position) (text : String) : Except Fault ShapeId :=
  match ShapeId.parse text with
  | .ok id => .ok id
  | .error wrong =>
    .error (.parse source position.line position.column "" (some (.malformedId wrong text)))

def traitsOfFields (source : String) : List Field → Except Fault Traits
  | [] => .ok []
  | (key, position, value) :: rest => do
    let id ← identifier source position key
    return { id, payload := value.json } :: (← traitsOfFields source rest)

def traits (source : String) (value : Option Value) : Except Fault Traits :=
  match Value.present? value with
  | none => .ok []
  | some (.object _ fields) => traitsOfFields source fields
  | some other =>
    .error (problem source other ("traits must be an object, got " ++ other.kind.name))

def target (source : String) (value : Option Value) : Except Fault ShapeId :=
  match Value.present? value with
  | none => .ok .empty
  | some reference =>
    match (reference.get? "target").bind Value.str? with
    | none => .error (problem source reference "reference must have a string target")
    | some text => identifier source reference.position text

def targetsOfItems (source : String) : List Value → Except Fault (List ShapeId)
  | [] => .ok []
  | item :: rest => do
    let id ← target source item
    return id :: (← targetsOfItems source rest)

def targets (source : String) (value : Option Value) : Except Fault (List ShapeId) :=
  match Value.present? value with
  | none => .ok []
  | some (.array _ items) => targetsOfItems source items
  | some other =>
    .error (problem source other ("expected an array of references, got " ++ other.kind.name))

def member (source : String) (container : ShapeId) (name : String) (value : Option Value) :
    Except Fault Member := do
  match Value.present? value with
  | none =>
    throw (problem source value (container.text ++ " is missing member " ++ Text.quote name))
  | some declared =>
    let type ← target source declared
    let attached ← traits source (declared.get? "traits")
    return { name, container, target := type, traits := attached,
             line := declared.position.line }

def membersOfFields (source : String) (container : ShapeId) :
    List Field → Except Fault (List Member)
  | [] => .ok []
  | (key, _, value) :: rest => do
    if !ShapeId.isIdentifier key then
      throw (problem source value
        ("invalid member name " ++ Text.quote key ++ " in " ++ container.text))
    let first ← member source container key value
    return first :: (← membersOfFields source container rest)

def membersNotObject (source : String) (container : ShapeId) (value : Value) : Fault :=
  problem source value ("members of " ++ container.text ++ " must be an object")

def members (source : String) (container : ShapeId) (value : Option Value) :
    Except Fault (List Member) :=
  match Value.present? value with
  | none => .ok []
  | some (.object _ fields) => membersOfFields source container fields
  | some other => .error (membersNotObject source container other)

/-- A value of an enumeration.  Without a value trait, its text is its name and its number is
its place. -/
def enumMember (source : String) (container : ShapeId) (numeric : Bool) (index : Nat)
    (key : String) (value : Value) : Except Fault EnumMember := do
  let attached ← traits source (value.get? "traits")
  let plain : EnumMember := { name := key, value := key, number := index, traits := attached }
  match attached.get? Trait.enumValue with
  | none => return plain
  | some trait =>
    if numeric then
      match Trait.decimalInt? trait.payload with
      | some number => return { plain with number }
      | none =>
        throw (problem source value
          ("enumValue of " ++ container.text ++ "$" ++ key ++ " must be an integer"))
    else return { plain with value := (Trait.text? trait.payload).getD key }

def enumMembersOfFields (source : String) (container : ShapeId) (numeric : Bool) (index : Nat) :
    List Field → Except Fault (List EnumMember)
  | [] => .ok []
  | (key, _, value) :: rest => do
    let first ← enumMember source container numeric index key value
    return first :: (← enumMembersOfFields source container numeric (index + 1) rest)

def enumMembers (source : String) (container : ShapeId) (numeric : Bool) (value : Option Value) :
    Except Fault (List EnumMember) :=
  match Value.present? value with
  | none => .ok []
  | some (.object _ fields) => enumMembersOfFields source container numeric 0 fields
  | some other => .error (membersNotObject source container other)

def identifiersOfFields (source : String) : List Field → Except Fault (List (String × ShapeId))
  | [] => .ok []
  | (key, _, value) :: rest => do
    let type ← target source value
    return (key, type) :: (← identifiersOfFields source rest)

def identifiers (source : String) (container : ShapeId) (value : Option Value) :
    Except Fault (List (String × ShapeId)) :=
  match Value.present? value with
  | none => .ok []
  | some (.object _ fields) => identifiersOfFields source fields
  | some other =>
    .error (problem source other
      ("identifiers of " ++ container.text ++ " must be an object"))

def resource (source : String) (container : ShapeId) (value : Value) : Except Fault Resource := do
  let identifiers ← identifiers source container (value.get? "identifiers")
  let create ← target source (value.get? "create")
  let put ← target source (value.get? "put")
  let read ← target source (value.get? "read")
  let update ← target source (value.get? "update")
  let delete ← target source (value.get? "delete")
  let list ← target source (value.get? "list")
  let operations ← targets source (value.get? "operations")
  let collectionOperations ← targets source (value.get? "collectionOperations")
  let resources ← targets source (value.get? "resources")
  return { identifiers, create, put, read, update, delete, list, operations,
           collectionOperations, resources }

def operation (source : String) (value : Value) : Except Fault Operation := do
  let input ← target source (value.get? "input")
  let output ← target source (value.get? "output")
  let errors ← targets source (value.get? "errors")
  return { input, output, errors }

def service (source : String) (value : Value) : Except Fault Service := do
  let version := ((value.get? "version").bind Value.str?).getD ""
  let operations ← targets source (value.get? "operations")
  let resources ← targets source (value.get? "resources")
  let errors ← targets source (value.get? "errors")
  return { version, operations, resources, errors }

def body (source : String) (id : ShapeId) (type : String) (value : Value) :
    Except Fault ShapeBody := do
  match SimpleKind.ofName? type with
  | some kind => return .simple kind
  | none =>
    match type with
    | "enum" => return .enumeration false (← enumMembers source id false (value.get? "members"))
    | "intEnum" =>
      return .enumeration true (← enumMembers source id true (value.get? "members"))
    | "list" | "set" => return .list (← member source id "member" (value.get? "member"))
    | "map" =>
      let key ← member source id "key" (value.get? "key")
      let content ← member source id "value" (value.get? "value")
      return .map key content
    | "structure" => return .structure (← members source id (value.get? "members"))
    | "operation" => return .operation (← operation source value)
    | "resource" => return .resource (← resource source id value)
    | "service" => return .service (← service source value)
    | _ => throw (.shapeKind id.text type value.position.line)

def shape (source : String) (id : ShapeId) (value : Value) : Except Fault Shape := do
  if value.kind != .object then
    throw (problem source value ("shape " ++ id.text ++ " must be an object"))
  match (value.get? "type").bind Value.str? with
  | none => throw (problem source value ("shape " ++ id.text ++ " has no type"))
  | some type =>
    let attached ← traits source (value.get? "traits")
    let content ← body source id type value
    return { id, traits := attached, line := value.position.line, body := content }

/-- The shapes of fields, added behind those already loaded. -/
def shapesOfFields (source : String) (loaded : List Shape) :
    List Field → Except Fault (List Shape)
  | [] => .ok loaded
  | (key, position, value) :: rest => do
    let id ← identifier source position key
    if !id.member.isEmpty then
      throw (problem source value ("shape id " ++ id.text ++ " must not name a member"))
    let next ← shape source id value
    let loaded ← Model.addAll loaded [next]
    shapesOfFields source loaded rest

def version (root : Value) : String :=
  let stated := ((root.get? "smithy").bind Value.str?).getD ""
  if stated.isEmpty then ((root.get? "version").bind Value.str?).getD "" else stated

def model (source : String) (root : Value) : Except Fault Model := do
  if root.kind != .object then
    throw (problem source root ("document must be an object, got " ++ root.kind.name))
  match Value.present? (root.get? "shapes") with
  | none => return { version := version root }
  | some (.object _ fields) =>
    return { version := version root, shapes := ← shapesOfFields source [] fields }
  | some other =>
    throw (problem source other ("shapes must be an object, got " ++ other.kind.name))

end ShapeForge.Load
