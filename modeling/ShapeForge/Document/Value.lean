import ShapeForge.Json.Read
import ShapeForge.Yaml.Core
import ShapeForge.Yaml.Node

/-!
# Document values

A document value has one of the kinds of JSON and remembers its place.  Fields of an object keep
their order, and equal keys are kept too; a look-up finds the first.
-/

namespace ShapeForge.Document

open ShapeForge.Yaml (Position Node)

inductive Kind where
  | null
  | bool
  | number
  | string
  | array
  | object
  deriving DecidableEq, Repr, Inhabited

namespace Kind

def name : Kind → String
  | .null => "null"
  | .bool => "boolean"
  | .number => "number"
  | .string => "string"
  | .array => "array"
  | .object => "object"

def all : List Kind :=
  [.null, .bool, .number, .string, .array, .object]

def nameOf (number : Int) : String :=
  if number < 0 then "unknown" else (all[number.toNat]?.map name).getD "unknown"

end Kind

inductive Value where
  | null (position : Position) (text : String)
  | bool (position : Position) (value : Bool)
  | number (position : Position) (text : String)
  | string (position : Position) (text : String)
  | array (position : Position) (items : List Value)
  | object (position : Position) (fields : List (String × Position × Value))
  deriving Repr, Inhabited

namespace Value

def kind : Value → Kind
  | .null _ _ => .null
  | .bool _ _ => .bool
  | .number _ _ => .number
  | .string _ _ => .string
  | .array _ _ => .array
  | .object _ _ => .object

def position : Value → Position
  | .null position _ => position
  | .bool position _ => position
  | .number position _ => position
  | .string position _ => position
  | .array position _ => position
  | .object position _ => position

def get? (key : String) : Value → Option Value
  | .object _ fields => (fields.find? (·.1 == key)).map (·.2.2)
  | _ => none

def str? : Value → Option String
  | .string _ text => some text
  | _ => none

def bool? : Value → Option Bool
  | .bool _ value => some value
  | _ => none

def int? : Value → Option Int
  | .number _ text =>
    Numeral.int64? text
  | _ => none

def isNull (value : Value) : Bool :=
  value.kind == .null

def present? (value : Option Value) : Option Value :=
  value.filter (!·.isNull)

/-- The number that a text is in JSON, if it is a literal there; otherwise the text itself. -/
def numberJson (text : String) : Json :=
  match Json.read? text with
  | some _ => .number text
  | none => .string text

mutual

/-- The value without its places.  Numbers that JSON cannot spell become strings. -/
def toJson : Value → Json
  | .null _ _ => .null
  | .bool _ value => .bool value
  | .number _ text => numberJson text
  | .string _ text => .string text
  | .array _ items => .array (itemsToJson items)
  | .object _ fields => .object (fieldsToJson fields)

def itemsToJson : List Value → List Json
  | [] => []
  | item :: rest => toJson item :: itemsToJson rest

def fieldsToJson : List (String × Position × Value) → List (String × Json)
  | [] => []
  | (key, _, value) :: rest => (key, toJson value) :: fieldsToJson rest

end

end Value

inductive NodeError where
  | keyNotScalar (line : Nat)
  | unsupportedKind (line kind : Nat)
  deriving Repr, DecidableEq

namespace NodeError

def message : NodeError → String
  | .keyNotScalar line => s!"line {line}: object keys must be scalars"
  | .unsupportedKind line kind => s!"line {line}: unsupported node kind {kind}"

end NodeError

def truthValue? (text : String) : Option Bool :=
  if ["1", "t", "T", "TRUE", "true", "True"].contains text then some true
  else if ["0", "f", "F", "FALSE", "false", "False"].contains text then some false
  else none

def scalarValue (position : Position) (tag text : String) : Value :=
  if tag == Yaml.CoreTag.null.name then .null position text
  else if tag == Yaml.CoreTag.bool.name then
    match truthValue? text with
    | some value => .bool position value
    | none => .string position text
  else if tag == Yaml.CoreTag.int.name || tag == Yaml.CoreTag.float.name then .number position text
  else .string position text

namespace Value

mutual

def ofNode : Node → Except NodeError Value
  | .absent => .ok (.null {} "")
  | .document position [] => .ok (.null position "")
  | .document _ (root :: _) => ofNode root
  | .alias _ target => ofNode target
  | .scalar position tag text => .ok (scalarValue position tag text)
  | .sequence position items => do return .array position (← ofItems items)
  | .mapping position content => do return .object position (← ofPairs content)
  | .unknown position kind => .error (.unsupportedKind position.line kind)

def ofItems : List Node → Except NodeError (List Value)
  | [] => .ok []
  | item :: rest => do
    let value ← ofNode item
    return value :: (← ofItems rest)

/-- The fields of a mapping; a last key without value is left out. -/
def ofPairs : List Node → Except NodeError (List (String × Position × Value))
  | .scalar position _ key :: value :: rest => do
    let value ← ofNode value
    return (key, position, value) :: (← ofPairs rest)
  | key :: _ :: _ => .error (.keyNotScalar key.position.line)
  | _ => .ok []

end

end Value

end ShapeForge.Document
