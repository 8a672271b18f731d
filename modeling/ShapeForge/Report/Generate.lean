import ShapeForge.Emit.Request
import ShapeForge.Report.Mock
import ShapeForge.Report.Shape

/-!
# Reports on generated packages

Packages, issues and results of generation as JSON.
-/

namespace ShapeForge.Report

open ShapeForge.Emit

/-- An issue; the texts are shown through a filter. -/
def issue (clean : String → String) (issue : Issue) : Json :=
  .object
    [("path", .string issue.path),
      ("message", .string (clean issue.message)),
      ("severity", .string issue.severityName),
      ("line", .int issue.line),
      ("file", .string issue.file),
      ("location", .string issue.location),
      ("string", .string (clean issue.text))]

def package (shown : List String) (package : Package) : Json :=
  let files := package.files.filter fun file => shown.contains file.name
  .object
    [("namespace", .string package.space),
      ("name", .string package.name),
      ("import_path", .string package.importPath),
      ("dir", .string package.dir),
      ("services", .strings package.services),
      ("types", .nat package.types),
      ("operations", .nat package.operations),
      ("file_names", .strings (package.files.map (·.name))),
      ("files", .object (files.map fun file => (file.name, .string file.content)))]

def plan (overridden : Option String) (plan : PackagePlan) : Json :=
  .object
    ([("namespace", .string plan.space),
      ("name", .string plan.name),
      ("alias", .string plan.shortName),
      ("import_path", .string plan.importPath),
      ("dir", .string plan.dir)] ++
      match overridden with
      | some path => [("override_name", .string (suggestedName path))]
      | none => [])

/-- A file before it is formatted, with its code where it is asked for; a file that is not emitted
has none. -/
def fileBody (shown : List String) (file : FileBody) : Json :=
  .object
    ([("name", .string file.name),
      ("emitted", .bool file.body.isSome),
      ("imports", imports file.imports)] ++
      (if shown.contains file.name then [("body", .string (file.body.getD ""))] else []))

def generated (clean : String → String) (shown : List String) (result : GenerateResult) :
    List (String × Json) :=
  [("packages", .array (result.packages.map (package shown))),
    ("issues", .array (result.issues.map (issue clean))),
    ("source_path", .string result.sourcePath),
    ("source_version", .string result.sourceVersion),
    ("source_format", .string ((result.sourceFormat.map (·.name)).getD "")),
    ("module_path", .string result.modulePath),
    ("dependencies", dependencies result.dependencies),
    ("info", .nat result.infoCount),
    ("warnings", .nat result.warningCount),
    ("critical", .nat result.criticalCount),
    ("success", .bool result.success),
    ("source_size", .nat result.sourceSize),
    ("types", .nat result.types),
    ("operations", .nat result.operations),
    ("has_critical", .bool (result.criticalCount > 0)),
    ("has_warnings", .bool (result.warningCount > 0))]

end ShapeForge.Report
