import ShapeForge.Naming.Identifier
import ShapeForge.Types.Reference

/-!
# Checking instances

An instance decoded from JSON is checked against a structure: required members must be present
and not null, in the instance and in every structure below it, also in the items of lists and the
values of maps.  Members are looked up by their serialized names.  Everything else is left
unchecked.  The first missing member is reported with its path.
-/

namespace ShapeForge.Validation

def decodedType : Json → String
  | .null => "<nil>"
  | .bool _ => "bool"
  | .number _ => "float64"
  | .string _ => "string"
  | .array _ => "[]interface \x7b\x7d"
  | .object _ => "map[string]interface \x7b\x7d"

/-- The member of an object under a key, if it is there and not null. -/
def given? (fields : List (String × Json)) (key : String) : Option Json :=
  (Json.lookup key fields).filter (!·.isNull)

/-- The serialized names of required members that an object does not give. -/
def missing (members : List Member) (fields : List (String × Json)) : List String :=
  ((members.filter (·.traits.isRequired)).map Member.jsonName).filter fun key =>
    (given? fields key).isNone

/-- The members of an object in ascending order of their keys, the last of equal keys. -/
def entries (fields : List (String × Json)) : List (String × Json) :=
  (Text.sortedDistinct (fields.map (·.1))).filterMap fun key =>
    (Json.lookup key fields).map (key, ·)

def structure? : TypeRef → Option (Shape × List Member)
  | .structure shape members => some (shape, members)
  | _ => none

abbrev Descend := Shape → List Member → Json → String → Except Fault Unit

def checkItems (descend : Descend) (shape : Shape) (members : List Member) (path : String) :
    Nat → List Json → Except Fault Unit
  | _, [] => .ok ()
  | index, item :: rest => do
    descend shape members item (path ++ "[" ++ toString index ++ "]")
    checkItems descend shape members path (index + 1) rest

def checkEntries (descend : Descend) (shape : Shape) (members : List Member) (path : String) :
    List (String × Json) → Except Fault Unit
  | [] => .ok ()
  | (key, value) :: rest => do
    descend shape members value (path ++ "[" ++ Text.quote key ++ "]")
    checkEntries descend shape members path rest

def checkNested (model : Model) (descend : Descend) (type : TypeRef) (value : Json)
    (path : String) : Except Fault Unit := do
  match type with
  | .structure shape members => descend shape members value path
  | .list _ item =>
    let element ← model.classifyMember item
    match structure? element, value with
    | some (shape, members), .array items => checkItems descend shape members path 0 items
    | _, _ => return ()
  | .map _ _ content =>
    let element ← model.classifyMember content
    match structure? element, value with
    | some (shape, members), .object fields =>
      checkEntries descend shape members path (entries fields)
    | _, _ => return ()
  | _ => return ()

def checkMembers (model : Model) (descend : Descend) (shape : Shape) (absent : List String)
    (fields : List (String × Json)) (path : String) : List Member → Except Fault Unit
  | [] => .ok ()
  | member :: rest => do
    let key := member.jsonName
    if absent.contains key then
      throw (.requiredField (Naming.declName shape.id) member.name path)
    match given? fields key with
    | none => pure ()
    | some value =>
      let type ← model.classifyMember member
      checkNested model descend type value (path ++ "." ++ key)
    checkMembers model descend shape absent fields path rest

def checkStructure (model : Model) : Nat → Descend
  | 0 => fun _ _ _ _ => .ok ()
  | depth + 1 => fun shape members value path =>
    match value with
    | .object fields =>
      checkMembers model (checkStructure model depth) shape (missing members fields) fields
        path members
    | .null => .error (.requiredField (Naming.declName shape.id) "" path)
    | other =>
      .error (.plain ("scaffold: " ++ path ++ ": expected an object for " ++ shape.id.text ++
        ", got " ++ decodedType other))

/-- Check an instance of a structure; nothing at all counts as null. -/
def checkInstance (model : Model) (id : ShapeId) (value : Json) : Except Fault Unit := do
  let shape ← model.resolveStructure id
  checkStructure model (value.depth + 1) shape shape.members value "$"

end ShapeForge.Validation
