import ShapeForge.Document.Read

/-!
# Descriptions of documents

A document value described as JSON, with the kind and the place of every part.
-/

namespace ShapeForge.Report

open ShapeForge.Document (Value)
open ShapeForge.Yaml (Position)

def present (fields : List (String × Option Json)) : List (String × Json) :=
  fields.filterMap fun (key, value) => value.map (key, ·)

def placed (kind : Document.Kind) (position : Position) (content : String × Json) : Json :=
  .object [("kind", .string kind.name), ("line", .nat position.line),
    ("column", .nat position.column), content]

mutual

def value : Value → Json
  | .null position text => placed .null position ("text", .string text)
  | .bool position truth =>
    placed .bool position ("text", .string (if truth then "true" else "false"))
  | .number position text => placed .number position ("text", .string text)
  | .string position text => placed .string position ("text", .string text)
  | .array position items => placed .array position ("items", .array (values items))
  | .object position fields => placed .object position ("fields", .array (fieldValues fields))

def values : List Value → List Json
  | [] => []
  | item :: rest => value item :: values rest

def fieldValues : List (String × Position × Value) → List Json
  | [] => []
  | (key, position, content) :: rest =>
    .object [("key", .string key), ("line", .nat position.line),
      ("column", .nat position.column), ("value", value content)] :: fieldValues rest

end

/-- A value that may be missing, with what its accessors give. -/
def document (found : Option Value) : Json :=
  .object ([("value", (found.map value).getD .null),
    ("json", .string ((found.map Value.json).getD "null")),
    ("null", .bool (found.all Value.isNull))] ++
    present [("str", (found.bind Value.str?).map .string),
      ("bool", (found.bind Value.bool?).map .bool),
      ("int", (found.bind Value.int?).map fun number => .string (toString number))])

end ShapeForge.Report
