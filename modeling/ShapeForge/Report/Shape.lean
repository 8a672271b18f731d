import ShapeForge.Report.Document
import ShapeForge.Source

/-!
# Descriptions of models

Shapes, members, dependencies and loaded models described as JSON.
-/

namespace ShapeForge.Report

def ids (ids : List ShapeId) : Json :=
  .strings (ids.map (·.text))

def traits (traits : Traits) : Json :=
  .array (traits.map fun trait => .strings [trait.id.text, trait.payload])

def kindName (kind : Option SimpleKind) : Json :=
  .string ((kind.map SimpleKind.name).getD "")

def member (member : Member) : Json :=
  .object [("name", .string member.name), ("id", .string member.id.text),
    ("target", .string member.target.text), ("primitive", .bool member.isPrimitive),
    ("primitive_kind", kindName member.primitive?), ("traits", traits member.traits),
    ("line", .nat member.line)]

def enumMember (member : EnumMember) : Json :=
  .object [("name", .string member.name), ("value", .string member.value),
    ("int", .string (toString member.number)), ("traits", traits member.traits)]

def body (shape : Shape) : List (String × Json) :=
  match shape.body with
  | .simple kind => [("primitive", .string kind.name)]
  | .enumeration numeric members =>
    [("int_enum", .bool numeric), ("members", .array (members.map enumMember))]
  | .list item => [("member", member item), ("target", .string item.target.text)]
  | .map key value => [("key", member key), ("value", member value)]
  | .structure members =>
    [("members", .array (members.map member)), ("is_error", .bool shape.isError)]
  | .operation operation =>
    [("input", .string operation.input.text), ("output", .string operation.output.text),
      ("errors", ids operation.errors)]
  | .resource resource =>
    [("identifiers", .array (resource.identifiers.map fun (name, target) =>
        .strings [name, target.text])),
      ("bound", ids resource.bound), ("resources", ids resource.resources)]
  | .service service =>
    [("version", .string service.version), ("operations", ids service.operations),
      ("resources", ids service.resources), ("errors", ids service.errors)]

def shape (shape : Shape) : Json :=
  .object ([("id", .string shape.id.text), ("kind", .string shape.kind.name),
    ("line", .nat shape.line), ("traits", traits shape.traits)] ++ body shape)

def dependencies (table : Dependencies) : Json :=
  .array (table.entries.map fun (space, version) =>
    .array [.string space, .optString (version.map Version.text)])

def dependencyState (table : Dependencies) : Json :=
  .object [("table", dependencies table), ("namespaces", .strings table.namespaces),
    ("unresolved", .strings table.unresolved)]

def brief (model : Model) : Json :=
  .object [("version", .string model.version), ("len", .nat model.size),
    ("namespaces", .strings model.namespaces), ("ids", ids model.ids)]

def format (format : Option SourceFormat) : Json :=
  .string ((format.map SourceFormat.name).getD "")

def loaded (loaded : LoadedModel) : Json :=
  .object [("version", .string loaded.model.version), ("len", .nat loaded.model.size),
    ("namespaces", .strings loaded.model.namespaces),
    ("shapes", .array (loaded.model.shapes.map shape)),
    ("source_path", .string loaded.sourcePath), ("format", format loaded.format),
    ("source_size", .nat loaded.size), ("result_version", .string loaded.version),
    ("dependencies", dependencies loaded.dependencies)]

def traitAccess (traits : Traits) (asked : List ShapeId) (http : Json) : Json :=
  let fallback : Member := { name := "fallback", container := .empty, target := .empty, traits }
  .object [("ids", ids (traits.map (·.id))), ("required", .bool traits.isRequired),
    ("documentation", .string traits.documentation), ("pattern", .optString traits.pattern?),
    ("fault", .optString traits.fault?), ("label", .bool traits.isLabel),
    ("query", .optString traits.query?), ("json_name", .optString traits.jsonName?),
    ("streaming", .bool traits.isStreaming),
    ("status", .optString (traits.status?.map toString)),
    ("has", .array (asked.map fun id => .optString ((traits.get? id).map (·.payload)))),
    ("member_json_name", .string fallback.jsonName), ("http", http)]

def binding (binding : HttpBinding) : Json :=
  .object [("method", .string binding.method), ("uri", .string binding.uri),
    ("code", .string (toString binding.code)), ("labels", .strings binding.labels),
    ("path", .string binding.path)]

end ShapeForge.Report
