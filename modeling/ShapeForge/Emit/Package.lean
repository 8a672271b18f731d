import ShapeForge.Emit.DocFile
import ShapeForge.Emit.Names
import ShapeForge.Emit.TypeFile
import ShapeForge.Layout.Format
import ShapeForge.Validation.Method

/-!
# Packages

The package of a namespace has a file for its comment and up to six files of code.  A failure
discards the whole package, but not the issues that were found.
-/

namespace ShapeForge.Emit

open ShapeForge.Code (Item)

structure PackageFile where
  name : String
  content : String
  deriving Repr, Inhabited, DecidableEq

structure Package where
  space : String
  name : String
  importPath : String
  dir : String
  files : List PackageFile := []
  services : List String := []
  types : Nat := 0
  operations : Nat := 0
  deriving Repr, Inhabited, DecidableEq

/-- A file before it is formatted: its code, if it has any, and the imports that the code needs. -/
structure FileBody where
  name : String
  items : Option (List Item)
  imports : Imports := []
  deriving Repr, Inhabited

namespace FileBody

def body (file : FileBody) : Option String :=
  file.items.map Code.text

end FileBody

structure Contents where
  services : List ServiceInfo
  shapes : List Shape

namespace Contents

def structures (contents : Contents) : List Shape :=
  contents.shapes.filter (·.kind == .struct)

end Contents

def spaceServices (model : Model) (space : String) : List (Shape × Service) :=
  (Model.inSpace model.shapes space).filterMap fun shape =>
    match shape.body with
    | .service service => some (shape, service)
    | _ => none

def contents (emitter : Emitter) : Build Contents := do
  let space := emitter.plan.space
  let declared := spaceServices emitter.model space
  if emitter.settings.policy == .single && declared.length > 1 then
    throw (.serviceCount space (declared.map (·.1.id.text)))
  let services ← Build.check (servicesOf emitter.model declared)
  let shapes := (Model.inSpace emitter.model.shapes space).filter isData
  Build.check (checkPackageNames space shapes services)
  return { services, shapes }

inductive CodeFile where
  | types
  | service
  | http
  | mock
  | validators
  | serviceTest
  deriving DecidableEq, Repr, Inhabited

namespace CodeFile

def all : List CodeFile := [.types, .service, .http, .mock, .validators, .serviceTest]

def name : CodeFile → String
  | .types => "types.go"
  | .service => "service.go"
  | .http => "http.go"
  | .mock => "mock.go"
  | .validators => "validators.go"
  | .serviceTest => "service_test.go"

/-- The code of a file, if the package has any for it. -/
def items (emitter : Emitter) (contents : Contents) : CodeFile → Build (Option (List Item))
  | .types => do return some (← typesBody emitter contents.shapes)
  | .service => ofServices serviceBody
  | .http => httpBody emitter contents.services
  | .mock => ofServices mockBody
  | .validators => do
    if contents.structures.isEmpty then return none
    let methods ← Build.check (Validation.methods emitter.model contents.structures)
    return some (Validation.validatorItems methods)
  | .serviceTest => ofServices testBody
where
  ofServices (step : Emitter → List ServiceInfo → Build (List Item)) :
      Build (Option (List Item)) := do
    if contents.services.isEmpty then return none
    return some (← step emitter contents.services)

end CodeFile

def docName : String := "doc.go"

def lastElement (path : String) : String :=
  Path.base path

def importText (path name : String) : String :=
  "\t" ++ (if name == lastElement path then "" else name ++ " ") ++ Text.quote path ++ "\n"

def importBlock (imports : Imports) : String :=
  if imports.isEmpty then ""
  else "import (\n" ++ "".intercalate (imports.map fun (path, name) => importText path name) ++
    ")\n\n"

def assemble (package : String) (imports : Imports) (body : String) : String :=
  Code.text [.comment fileHeader, .blank, .package package, .blank] ++ importBlock imports ++ body

/-- Format the text of a file.  Text that is not code is kept with a warning. -/
def formatted (emitter : Emitter) (name text : String) : Build PackageFile := do
  match Layout.format text with
  | .ok content => return { name, content }
  | .error problem =>
    emitter.packageIssue name ("failed to format generated code: " ++ problem.message) .warning
    return { name, content := text }

def codeBody (emitter : Emitter) (contents : Contents) (file : CodeFile) : Build FileBody := do
  Build.resetImports
  let items ← file.items emitter contents
  return { name := file.name, items, imports := (← get).imports }

def codeFile (emitter : Emitter) (contents : Contents) (file : CodeFile) :
    Build (FileBody × Option PackageFile) := do
  let code ← codeBody emitter contents file
  match code.body with
  | none => return (code, none)
  | some body =>
    let text := assemble emitter.plan.name code.imports body
    return (code, some (← formatted emitter file.name text))

def buildPackage (emitter : Emitter) : Build (Package × List FileBody) := do
  let plan := emitter.plan
  let contents ← contents emitter
  let doc := docItems emitter contents.services
  let docFile ← formatted emitter docName (Code.text doc)
  let files ← Build.each (codeFile emitter contents) CodeFile.all
  let types := contents.shapes.length
  emitter.packageIssue "" ("generated " ++ toString types ++ " type(s) and " ++
    toString contents.services.length ++ " service(s)") .info
  return (
    { space := plan.space
      name := plan.name
      importPath := plan.importPath
      dir := plan.dir
      files := docFile :: files.filterMap (·.2)
      services := contents.services.map (·.name)
      types
      operations := contents.services.foldl (fun sum service => sum + service.operations.length) 0 },
    { name := docName, items := some doc } :: files.map (·.1))

/-- Emit the package of a namespace: the package or a failure, and the issues in either case. -/
def emitPackage (emitter : Emitter) : Except Fault (Package × List FileBody) × List Issue :=
  let (result, recorded) := (buildPackage emitter).run {}
  (result, recorded.issues)

end ShapeForge.Emit
