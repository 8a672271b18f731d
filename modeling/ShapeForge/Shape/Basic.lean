import ShapeForge.Shape.Trait

/-!
# Shapes

The kinds of shapes of a model: data (simple types, enumerations, lists, maps, structures) and
behaviour (operations, resources, services).
-/

namespace ShapeForge

inductive SimpleKind where
  | string
  | integer
  | long
  | short
  | byte
  | float
  | double
  | boolean
  | timestamp
  | document
  | blob
  | bigInteger
  | bigDecimal
  deriving DecidableEq, Repr, Inhabited

namespace SimpleKind

def name : SimpleKind → String
  | .string => "string"
  | .integer => "integer"
  | .long => "long"
  | .short => "short"
  | .byte => "byte"
  | .float => "float"
  | .double => "double"
  | .boolean => "boolean"
  | .timestamp => "timestamp"
  | .document => "document"
  | .blob => "blob"
  | .bigInteger => "bigInteger"
  | .bigDecimal => "bigDecimal"

def all : List SimpleKind :=
  [.string, .integer, .long, .short, .byte, .float, .double, .boolean, .timestamp, .document,
    .blob, .bigInteger, .bigDecimal]

def ofName? (name : String) : Option SimpleKind :=
  all.find? (·.name == name)

def ofPrelude? : String → Option SimpleKind
  | "String" => some .string
  | "Integer" | "PrimitiveInteger" => some .integer
  | "Long" | "PrimitiveLong" => some .long
  | "Short" | "PrimitiveShort" => some .short
  | "Byte" | "PrimitiveByte" => some .byte
  | "Float" | "PrimitiveFloat" => some .float
  | "Double" | "PrimitiveDouble" => some .double
  | "Boolean" | "PrimitiveBoolean" => some .boolean
  | "Timestamp" => some .timestamp
  | "Document" => some .document
  | "Blob" => some .blob
  | "BigInteger" => some .bigInteger
  | "BigDecimal" => some .bigDecimal
  | _ => none

end SimpleKind

structure Member where
  name : String
  container : ShapeId
  target : ShapeId
  traits : Traits := []
  line : Nat := 0
  deriving Repr, Inhabited, DecidableEq

namespace Member

def id (member : Member) : ShapeId :=
  member.container.withMember member.name

def isPrimitive (member : Member) : Bool :=
  member.target.isPrelude

def primitive? (member : Member) : Option SimpleKind :=
  if member.target.isPrelude then SimpleKind.ofPrelude? member.target.name else none

def jsonName (member : Member) : String :=
  member.traits.jsonName?.getD member.name

end Member

structure EnumMember where
  name : String
  value : String
  number : Int
  traits : Traits := []
  deriving Repr, Inhabited, DecidableEq

structure Resource where
  identifiers : List (String × ShapeId) := []
  create : ShapeId := .empty
  put : ShapeId := .empty
  read : ShapeId := .empty
  update : ShapeId := .empty
  delete : ShapeId := .empty
  list : ShapeId := .empty
  operations : List ShapeId := []
  collectionOperations : List ShapeId := []
  resources : List ShapeId := []
  deriving Repr, Inhabited, DecidableEq

namespace Resource

/-- The operations bound to the resource: its life cycle, then the others. -/
def bound (resource : Resource) : List ShapeId :=
  [resource.create, resource.put, resource.read, resource.update, resource.delete,
    resource.list].filter (!·.isEmpty) ++ resource.operations ++ resource.collectionOperations

end Resource

structure Operation where
  input : ShapeId := .empty
  output : ShapeId := .empty
  errors : List ShapeId := []
  deriving Repr, Inhabited, DecidableEq

structure Service where
  version : String := ""
  operations : List ShapeId := []
  resources : List ShapeId := []
  errors : List ShapeId := []
  deriving Repr, Inhabited, DecidableEq

inductive ShapeKind where
  | simple
  | enumeration
  | list
  | map
  | struct
  | operation
  | resource
  | service
  deriving DecidableEq, Repr, Inhabited

namespace ShapeKind

def name : ShapeKind → String
  | .simple => "simple type"
  | .enumeration => "enum"
  | .list => "list"
  | .map => "map"
  | .struct => "structure"
  | .operation => "operation"
  | .resource => "resource"
  | .service => "service"

def all : List ShapeKind :=
  [.simple, .enumeration, .list, .map, .struct, .operation, .resource, .service]

def ofName? (name : String) : Option ShapeKind :=
  all.find? (·.name == name)

def nameOf (number : Int) : String :=
  if number < 0 then "unknown" else (all[number.toNat]?.map name).getD "unknown"

end ShapeKind

inductive ShapeBody where
  | simple (kind : SimpleKind)
  | enumeration (numeric : Bool) (members : List EnumMember)
  | list (member : Member)
  | map (key value : Member)
  | structure (members : List Member)
  | operation (operation : Operation)
  | resource (resource : Resource)
  | service (service : Service)
  deriving Repr, Inhabited, DecidableEq

namespace ShapeBody

def kind : ShapeBody → ShapeKind
  | .simple _ => .simple
  | .enumeration _ _ => .enumeration
  | .list _ => .list
  | .map _ _ => .map
  | .structure _ => .struct
  | .operation _ => .operation
  | .resource _ => .resource
  | .service _ => .service

end ShapeBody

structure Shape where
  id : ShapeId
  traits : Traits := []
  line : Nat := 0
  body : ShapeBody
  deriving Repr, Inhabited, DecidableEq

namespace Shape

def kind (shape : Shape) : ShapeKind :=
  shape.body.kind

/-- The members of a structure; nothing for other shapes. -/
def members (shape : Shape) : List Member :=
  match shape.body with
  | .structure members => members
  | _ => []

def member? (shape : Shape) (name : String) : Option Member :=
  shape.members.find? (·.name == name)

/-- What a shape calls its own by a name: a member of a structure, the item of a list, or the key
or the value of a map. -/
def memberNamed? (shape : Shape) (name : String) : Option Member :=
  match shape.body with
  | .structure _ => shape.member? name
  | .list item => some item
  | .map key value => some (if name == "key" then key else value)
  | _ => none

def isError (shape : Shape) : Bool :=
  shape.traits.has Trait.error

def service? (shape : Shape) : Option Service :=
  match shape.body with
  | .service service => some service
  | _ => none

def operation? (shape : Shape) : Option Operation :=
  match shape.body with
  | .operation operation => some operation
  | _ => none

def resource? (shape : Shape) : Option Resource :=
  match shape.body with
  | .resource resource => some resource
  | _ => none

end Shape

end ShapeForge
