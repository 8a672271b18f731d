import ShapeForge.Naming.Comment
import ShapeForge.Naming.Identifier
import ShapeForge.Report.Shape
import ShapeForge.Route

/-!
# Descriptions of names

Identifiers of shapes, the names that follow from a word, and routes described as JSON.  A failure
is described by a function of its own.
-/

namespace ShapeForge.Report

def naming (word : String) : Json :=
  .object ([("pascal", Naming.pascal word), ("camel", Naming.camel word),
    ("type", Naming.typeName word), ("field", Naming.fieldName word),
    ("param", Naming.paramName word), ("package", Naming.packageName word),
    ("const", Naming.constName word), ("escape", Naming.escapeReserved word),
    ("clean", Naming.cleanDescription word), ("handler_param", Naming.handlerParam word),
    ("literal", Naming.stringLiteral word), ("hook", Naming.hookName word)].map
      fun (key, name) => (key, .string name))

def shapeId (fault : Fault → Json) (id : ShapeId) (member : String) : Json :=
  let parsed := ShapeId.parse id.text
  let kind := if id.isPrelude then SimpleKind.ofPrelude? id.name else none
  .object [("valid", .bool parsed.toOption.isSome),
    ("parse", match parsed with
      | .ok _ => .null
      | .error problem => fault (.malformedId problem id.text)),
    ("namespace", .string id.nameSpace), ("name", .string id.name),
    ("member", .string id.member), ("with_member", .string (id.withMember member).text),
    ("prelude", .bool id.isPrelude), ("unit", .bool id.isUnit),
    ("primitive", .bool id.isPrelude), ("primitive_kind", kindName kind),
    ("decl_name", .string (Naming.declName id)),
    ("enum_const", .string (Naming.enumConstName id member))]

def docComment (text name indent : String) : Json :=
  .object [("comment", .string (Naming.docComment text name indent)),
    ("lines", .strings (Naming.docLines text))]

def route (fault : Fault → Json) (operation : ShapeId) (method uri : String) : Json :=
  let binding : HttpBinding := { method, uri }
  let (pattern, greedy) := Route.serverPattern binding.path
  let normal := Route.normalizeMethod operation method
  .object ([("labels", .strings binding.labels), ("path", .string binding.path),
    ("chi_pattern", .string pattern), ("greedy", .string greedy),
    ("route_raw", .string (Route.pattern method binding))] ++
    match normal with
    | .ok method =>
      [("method", .string method), ("route", .string (Route.pattern method binding))]
    | .error problem => [("method", fault problem)])

end ShapeForge.Report
