import ShapeForge.Emit.Plan
import ShapeForge.Issue
import ShapeForge.Mock.Synthesis
import ShapeForge.Naming.Comment
import ShapeForge.Types.Scope
import ShapeForge.Use

/-!
# Building a package

The files of a package are built one after another.  Building records imports and issues, also
where it fails.
-/

namespace ShapeForge.Emit

structure Settings where
  modulePath : String := defaultModulePath
  overrides : List (String × String) := []
  policy : ServicePolicy := .multiple
  seed : Nat := 1
  listSize : Nat := 5
  /-- Models that are merged before generation, with their versions. -/
  dependencies : List (Model × Option Version) := []
  namespaces : List String := []
  strict : Bool := false
  includeInfo : Bool := true

namespace Settings

def module (settings : Settings) : String :=
  if settings.modulePath.isEmpty then defaultModulePath else settings.modulePath

end Settings

/-- The namespace that is emitted and all that it needs. -/
structure Emitter where
  settings : Settings
  model : Model
  plans : List PackagePlan
  plan : PackagePlan
  dependencies : Dependencies := {}
  sourcePath : String := ""

namespace Emitter

def scope (emitter : Emitter) : Scope :=
  { model := emitter.model
    space := emitter.plan.space
    package := packageOf emitter.settings.module emitter.plans }

def mocks (emitter : Emitter) : Mocks :=
  { model := emitter.model, seed := emitter.settings.seed, listSize := emitter.settings.listSize }

end Emitter

structure Recorded where
  imports : Imports := []
  issues : List Issue := []

/-- A step of building, which records also where it fails. -/
abbrev Build (α : Type) := ExceptT Fault (StateM Recorded) α

namespace Build

def emit {α : Type} (emission : Emission α) : Build α :=
  ExceptT.mk fun recorded =>
    let (result, imports) := emission.run recorded.imports
    (result, { recorded with imports })

def check {α : Type} (result : Except Fault α) : Build α :=
  ExceptT.mk (pure result)

def addIssue (issue : Issue) : Build Unit :=
  modify fun (recorded : Recorded) => { recorded with issues := recorded.issues ++ [issue] }

def resetImports : Build Unit :=
  modify fun (recorded : Recorded) => { recorded with imports := [] }

def each {α β : Type} (step : α → Build β) : List α → Build (List β)
  | [] => return []
  | item :: rest => do
    let first ← step item
    return first :: (← each step rest)

end Build

namespace Emitter

def packageIssue (emitter : Emitter) (file message : String) (severity : Severity) :
    Build Unit :=
  let path := emitter.plan.space ++ (if file.isEmpty then "" else "/" ++ file)
  Build.addIssue { path, message, severity }

def shapeIssue (emitter : Emitter) (shape : Shape) (message : String) (severity : Severity) :
    Build Unit :=
  Build.addIssue
    { path := shape.id.text, message, severity, line := shape.line, file := emitter.sourcePath }

end Emitter

def shapeDoc (shape : Shape) (name : String) : List String :=
  let text := shape.traits.documentation
  if text.isEmpty then [" " ++ name ++ " is generated from " ++ shape.id.text ++ "."]
  else Naming.docCommentLines text name

end ShapeForge.Emit
