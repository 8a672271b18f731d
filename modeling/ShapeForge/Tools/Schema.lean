import ShapeForge.Json.Basic

/-!
# Schemas of the tools

What the tools expect and answer, described as JSON Schema.
-/

namespace ShapeForge.Tools

inductive Schema where
  | text
  | whole
  | natural
  | truth
  | anything
  | optional (schema : Schema)
  | list (item : Schema)
  /-- An object with exactly these members: name, description, whether it is required, type. -/
  | object (members : List (String × String × Bool × Schema))

namespace Schema

def needed (name : String) (schema : Schema) (description : String := "") :
    String × String × Bool × Schema :=
  (name, description, true, schema)

def free (name : String) (schema : Schema) (description : String := "") :
    String × String × Bool × Schema :=
  (name, description, false, schema)

/-- The name of a type where `null` is allowed too. -/
def orNull : List (String × Json) → List (String × Json)
  | [] => []
  | (key, value) :: rest =>
    (if key == "type" then (key, .array [.string "null", value]) else (key, value)) ::
      orNull rest

mutual

def fields : Schema → List (String × Json)
  | .text => [("type", .string "string")]
  | .whole => [("type", .string "integer")]
  | .natural => [("type", .string "integer"), ("minimum", .nat 0)]
  | .truth => [("type", .string "boolean")]
  | .anything => []
  | .optional schema => orNull (fields schema)
  | .list item =>
    [("type", .strings ["null", "array"]), ("items", described "" (fields item))]
  | .object members =>
    [("type", .string "object"), ("properties", .object (properties members)),
      ("additionalProperties", .bool false)] ++
    match members.filter (·.2.2.1) with
    | [] => []
    | required => [("required", .strings (required.map (·.1)))]

def properties : List (String × String × Bool × Schema) → List (String × Json)
  | [] => []
  | (name, description, _, schema) :: rest =>
    (name, described description (fields schema)) :: properties rest

/-- A type with its description; nothing is said by `true`. -/
def described (description : String) (fields : List (String × Json)) : Json :=
  let fields :=
    if description.isEmpty then fields else ("description", .string description) :: fields
  if fields.isEmpty then .bool true else .object fields

end

def json (schema : Schema) : Json :=
  described "" schema.fields

def model : Schema :=
  .object
    [free "file" .text "Path to a Smithy JSON AST model on disk",
      free "content" .text "Inline Smithy JSON AST model content"]

end Schema

structure ToolEntry where
  name : String
  description : String
  input : Schema
  output : Schema
  blank : Json

namespace ToolEntry

open Schema

def json (tool : ToolEntry) : Json :=
  .object [("name", .string tool.name), ("description", .string tool.description),
    ("inputSchema", tool.input.json), ("outputSchema", tool.output.json)]

def check : ToolEntry where
  name := "check"
  description := "Check a JSON instance against a structure shape. Reports the first required " ++
    "member that is absent, including members of nested structures, lists and maps."
  input := .object
    [needed "model" model "The Smithy model defining the structure",
      needed "shape" .text "Absolute id of the structure to check against",
      needed "instance" .anything "The JSON instance to check"]
  output := .object [needed "shape" .text, needed "valid" .truth, free "error" .text]
  blank := .object [("shape", .string ""), ("valid", .bool false)]

def generate : ToolEntry where
  name := "generate"
  description := "Generate Go packages from a Smithy model, one package per namespace. " ++
    "Requires output_dir. Use namespaces to restrict generation and policy=single to reject " ++
    "namespaces declaring several services. Returns a manifest of generated packages and files."
  input := .object
    [needed "model" model "The Smithy model to generate code from",
      needed "output_dir" .text "Directory to write generated packages to",
      free "module_path" .text "Import path prefix of generated packages (default: generated)",
      free "namespaces" (.list .text) "Only generate these namespaces",
      free "policy" .text "Service policy: multiple (default) or single",
      free "seed" (.optional .natural) "Seed for the mock data in generated mocks and tests",
      free "strict" .truth "Fail when generation reports any warning"]
  output := .object
    [needed "success" .truth, needed "output_dir" .text, needed "module_path" .text,
      needed "packages" (.list (.object
        [needed "namespace" .text, needed "name" .text, needed "import_path" .text,
          needed "dir" .text, free "services" (.list .text),
          needed "files" (.list (.object [needed "name" .text, needed "size" .whole]))])),
      needed "generated_types" .whole, needed "generated_operations" .whole,
      needed "warning_count" .whole, needed "critical_count" .whole,
      free "issues" (.list (.object
        [needed "path" .text, needed "severity" .text, needed "message" .text,
          free "location" .text]))]
  blank := .object
    [("success", .bool false), ("output_dir", .string ""), ("module_path", .string ""),
      ("packages", .null), ("generated_types", .nat 0), ("generated_operations", .nat 0),
      ("warning_count", .nat 0), ("critical_count", .nat 0)]

def inspect : ToolEntry where
  name := "inspect"
  description := "Summarize a Smithy model: namespaces, shape counts, services with their " ++
    "operations and HTTP routes, and a paginated list of shapes. Filter shapes by namespace, " ++
    "kind (structure, list, map, enum, simple type, operation, resource, service) or name " ++
    "glob. Use group_by (kind or namespace) to get distribution counts instead of individual " ++
    "shapes."
  input := .object
    [needed "model" model "The Smithy model to inspect",
      free "namespace" .text "Only list shapes of this namespace",
      free "kind" .text ("Only list shapes of this kind (structure, list, map, enum, " ++
        "simple type, operation, resource, service)"),
      free "name" .text "Only list shapes whose name matches (supports * and ? globs)",
      free "group_by" .text "Group listed shapes and return counts: kind or namespace",
      free "offset" .whole "Skip the first N shapes",
      free "limit" .whole "Maximum number of shapes to return"]
  output := .object
    [needed "version" .text, needed "shape_count" .whole, needed "namespaces" (.list .text),
      free "services" (.list (.object
        [needed "id" .text, free "version" .text,
          needed "operations" (.list (.object
            [needed "id" .text, free "input" .text, free "output" .text, free "method" .text,
              free "uri" .text, free "code" .whole]))])),
      needed "matched" .whole, needed "returned" .whole,
      free "shapes" (.list (.object
        [needed "id" .text, needed "kind" .text, needed "namespace" .text, free "line" .whole,
          free "doc" .text])),
      free "groups" (.list (.object [needed "key" .text, needed "count" .whole]))]
  blank := .object
    [("version", .string ""), ("shape_count", .nat 0), ("namespaces", .null), ("matched", .nat 0),
      ("returned", .nat 0)]

def mock : ToolEntry where
  name := "mock"
  description := "Synthesize a sample JSON instance of a shape. Self-referential structures " ++
    "are cut off so the result is always finite. The same seed always yields the same instance."
  input := .object
    [needed "model" model "The Smithy model defining the shape",
      needed "shape" .text
        "Absolute shape id to synthesize, e.g. example.weather#GetForecastOutput",
      free "seed" (.optional .natural) "Seed for the pseudo-random values",
      free "list_size" (.optional .whole) "Number of elements synthesized for lists"]
  output := .object [needed "shape" .text, needed "seed" .natural, needed "value" .anything]
  blank := .object [("shape", .string ""), ("seed", .nat 0), ("value", .null)]

def all : List ToolEntry :=
  [check, generate, inspect, mock]

end ToolEntry

end ShapeForge.Tools
