import ShapeForge.Mock.Literal
import ShapeForge.Report.Document
import ShapeForge.Route

/-!
# Descriptions of types and instances

Classified types, imports and instances described as JSON.
-/

namespace ShapeForge.Report

def imports (imports : Imports) : Json :=
  .array (imports.map fun (path, name) => .strings [name, path])

def typeRef (type : TypeRef) : Json :=
  .object [("category", .string type.category), ("target", .string type.target.text),
    ("primitive", .string ((type.simpleKind?.map SimpleKind.name).getD "")),
    ("nilable", .bool type.isNilable),
    ("shape", .optString (type.shape?.map (·.id.text))),
    ("is_structure", .bool type.isStructure), ("is_list", .bool type.isList)]

def instanceHead (kind : String) (shape : ShapeId) (simple : Option SimpleKind) :
    List (String × Json) :=
  [("kind", .string kind), ("shape", .string shape.text)] ++
    present [("primitive", simple.map fun kind => .string kind.name)]

mutual

def mockValue : MockValue → Json
  | .string shape kind text =>
    .object (instanceHead "string" shape kind ++ [("str", .string text)])
  | .int shape kind number =>
    .object (instanceHead "int" shape kind ++ [("int", .string (toString number))])
  | .float shape kind number =>
    .object (instanceHead "float" shape kind ++ [("float", .string number.plain)])
  | .bool shape kind value =>
    .object (instanceHead "bool" shape kind ++ [("bool", .bool value)])
  | .timestamp shape kind => .object (instanceHead "timestamp" shape kind)
  | .blob shape kind text => .object (instanceHead "blob" shape kind ++ [("str", .string text)])
  | .enumeration shape member text number =>
    .object (instanceHead "enum" shape none ++ [("member", .string member),
      ("str", .string text), ("int", .string (toString number))])
  | .structure shape fields =>
    .object (instanceHead "struct" shape none ++ [("fields", .array (mockFields fields))])
  | .list shape items =>
    .object (instanceHead "list" shape none ++ [("items", .array (mockItems items))])
  | .map shape entries =>
    .object (instanceHead "map" shape none ++ [("entries", .array (mockEntries entries))])
  | .unknown shape _ => .object (instanceHead "unknown" shape none)

def mockFields : List (Member × MockValue) → List Json
  | [] => []
  | (member, value) :: rest =>
    .array [.string member.name, mockValue value] :: mockFields rest

def mockItems : List MockValue → List Json
  | [] => []
  | item :: rest => mockValue item :: mockItems rest

def mockEntries : List (MockValue × MockValue) → List Json
  | [] => []
  | (key, value) :: rest => .array [mockValue key, mockValue value] :: mockEntries rest

end

/-- The code of an instance: as an expression, as a value for a field, and what they import.
Failures are described by a function. -/
def literal (fault : Fault → Json) (scope : Scope) (value : MockValue) :
    List (String × Json) :=
  let show' (result : Except Fault Code.Expr) : Json :=
    match result with
    | .ok expr => .string expr.text
    | .error problem => fault problem
  let (expr, used) := (value.expr scope).run []
  let (fieldExpr, used) := (value.fieldExpr scope).run used
  [("expr", show' expr), ("field_expr", show' fieldExpr), ("imports", imports used)]

/-- The code of an instance, in which the expression is written `@` in the value for a field.
Nothing is shown of a value for a field without an expression. -/
def shortLiteral (fault : Fault → Json) (scope : Scope) (value : MockValue) :
    List (String × Json) :=
  (literal fault scope value).filterMap fun (key, shown) =>
    if key != "field_expr" then some (key, shown)
    else match (value.expr scope).run [], shown with
      | (.error _, _), _ => none
      | (.ok expr, _), .string text =>
        some (key, .string (match Route.cutWord expr.text.toList text.toList with
          | some (before, after) => String.ofList before ++ "@" ++ String.ofList after
          | none => text))
      | _, _ => some (key, shown)

end ShapeForge.Report
