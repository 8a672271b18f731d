import ShapeForge.Emit.Generate
import ShapeForge.Summary

/-!
# Answers of the tools

What the tools answer, and how it is shown as JSON.  What is empty is left out, apart from the
fields that every answer has.
-/

namespace ShapeForge.Tools

structure ShapeSummary where
  id : ShapeId
  kind : String
  line : Nat
  documentation : String
  deriving Repr, DecidableEq

structure InspectAnswer where
  version : String
  shapeCount : Nat
  namespaces : List String
  services : List ServiceSummary
  matched : Nat
  shapes : List ShapeSummary := []
  groups : List Listing.Group := []

inductive Answer where
  | inspect (answer : InspectAnswer)
  | generate (output : String) (result : Emit.GenerateResult)
  | mock (shape : ShapeId) (seed : Nat) (value : Json)
  /-- An instance was checked, and is wrong if there is a problem. -/
  | check (shape : ShapeId) (problem : Option String)

namespace Answer

def textField (name text : String) : List (String × Json) :=
  if text.isEmpty then [] else [(name, .string text)]

def intField (name : String) (value : Int) : List (String × Json) :=
  if value == 0 then [] else [(name, .int value)]

def listField {α : Type} (name : String) (json : α → Json) (items : List α) :
    List (String × Json) :=
  if items.isEmpty then [] else [(name, .array (items.map json))]

def listOrNull {α : Type} (json : α → Json) (items : List α) : Json :=
  if items.isEmpty then .null else .array (items.map json)

def routeFields : Option OperationRoute → List (String × Json)
  | some route =>
    textField "method" route.method ++ textField "uri" route.uri ++ intField "code" route.code
  | none => []

def operation (summary : OperationSummary) : Json :=
  .object ([("id", .string summary.id.text)] ++ textField "input" summary.input.text ++
    textField "output" summary.output.text ++ routeFields summary.route)

def service (summary : ServiceSummary) : Json :=
  .object ([("id", .string summary.id.text)] ++ textField "version" summary.version ++
    [("operations", listOrNull operation summary.operations)])

def shape (summary : ShapeSummary) : Json :=
  .object ([("id", .string summary.id.text), ("kind", .string summary.kind),
    ("namespace", .string summary.id.nameSpace)] ++ intField "line" summary.line ++
    textField "doc" summary.documentation)

def group (group : Listing.Group) : Json :=
  .object [("key", .string group.key), ("count", .nat group.count)]

def package (package : Emit.Package) : Json :=
  .object ([("namespace", .string package.space), ("name", .string package.name),
    ("import_path", .string package.importPath), ("dir", .string package.dir)] ++
    listField "services" .string package.services ++
    [("files", listOrNull file package.files)])
where
  file (file : Emit.PackageFile) : Json :=
    .object [("name", .string file.name), ("size", .nat file.content.utf8ByteSize)]

def issue (issue : Issue) : Json :=
  .object ([("path", .string issue.path), ("severity", .string issue.severityName),
    ("message", .string issue.message)] ++ textField "location" issue.location)

def json : Answer → Json
  | .inspect answer =>
    .object ([("version", .string answer.version), ("shape_count", .nat answer.shapeCount),
      ("namespaces", .strings answer.namespaces)] ++
      listField "services" service answer.services ++
      [("matched", .nat answer.matched), ("returned", .nat answer.shapes.length)] ++
      listField "shapes" shape answer.shapes ++ listField "groups" group answer.groups)
  | .generate output result =>
    .object ([("success", .bool result.success), ("output_dir", .string output),
      ("module_path", .string result.modulePath),
      ("packages", listOrNull package result.packages),
      ("generated_types", .nat result.types), ("generated_operations", .nat result.operations),
      ("warning_count", .nat result.warningCount),
      ("critical_count", .nat result.criticalCount)] ++
      listField "issues" issue result.issues)
  | .mock shape seed value =>
    .object [("shape", .string shape.text), ("seed", .nat seed), ("value", value)]
  | .check shape problem =>
    .object ([("shape", .string shape.text), ("valid", .bool problem.isNone)] ++
      textField "error" (problem.getD ""))

end Answer

end ShapeForge.Tools
