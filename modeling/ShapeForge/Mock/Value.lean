import ShapeForge.Decimal.Basic
import ShapeForge.Json.Write
import ShapeForge.Shape.Basic
import ShapeForge.Text.Base64

/-!
# Instances

An instance of a shape: what was chosen for every scalar, and the parts of structures, lists and
maps.  `MockValue.json` renders it; a time is rendered as a given one.
-/

namespace ShapeForge

/-- An instance of a shape.  Scalars know the kind of their type, if it is a known one. -/
inductive MockValue where
  | string (shape : ShapeId) (kind : Option SimpleKind) (text : String)
  | int (shape : ShapeId) (kind : Option SimpleKind) (number : Int)
  | float (shape : ShapeId) (kind : Option SimpleKind) (number : Decimal)
  | bool (shape : ShapeId) (kind : Option SimpleKind) (value : Bool)
  | timestamp (shape : ShapeId) (kind : Option SimpleKind)
  | blob (shape : ShapeId) (kind : Option SimpleKind) (text : String)
  /-- The chosen member of an enumeration, with its text or its number. -/
  | enumeration (shape : ShapeId) (member text : String) (number : Int)
  | structure (shape : ShapeId) (fields : List (Member × MockValue))
  | list (shape : ShapeId) (items : List MockValue)
  | map (shape : ShapeId) (entries : List (MockValue × MockValue))
  /-- A kind of instance that nothing renders. -/
  | unknown (shape : ShapeId) (number : Nat)
  deriving Repr, Inhabited

namespace MockValue

def keyText : MockValue → String
  | .string _ _ text => text
  | .blob _ _ text => text
  | .enumeration _ _ text _ => text
  | _ => ""

def field? (name : String) : MockValue → Option MockValue
  | .structure _ fields => (fields.find? (·.1.name == name)).map (·.2)
  | _ => none

def textJson (text : String) : String :=
  Json.quote text

mutual

def json (now : String) : MockValue → String
  | .string _ _ text => textJson text
  | .int _ _ number => toString number
  | .float _ _ number => number.plain
  | .bool _ _ value => if value then "true" else "false"
  | .timestamp _ _ => textJson now
  | .blob _ _ text => textJson (Text.base64 text)
  | .enumeration _ _ text number => if text.isEmpty then toString number else textJson text
  | .structure _ fields => "\x7b" ++ ",".intercalate (jsonFields now fields) ++ "\x7d"
  | .list _ items => "[" ++ ",".intercalate (jsonItems now items) ++ "]"
  | .map _ entries => "\x7b" ++ ",".intercalate (jsonEntries now entries) ++ "\x7d"
  | .unknown _ _ => ""

def jsonFields (now : String) : List (Member × MockValue) → List String
  | [] => []
  | (member, value) :: rest =>
    (textJson member.jsonName ++ ":" ++ json now value) :: jsonFields now rest

def jsonItems (now : String) : List MockValue → List String
  | [] => []
  | item :: rest => json now item :: jsonItems now rest

def jsonEntries (now : String) : List (MockValue × MockValue) → List String
  | [] => []
  | (key, value) :: rest =>
    (textJson key.keyText ++ ":" ++ json now value) :: jsonEntries now rest

end

end MockValue

end ShapeForge
