import ShapeForge.Emit.Package
import ShapeForge.Source

/-!
# Generation

A loaded model is generated namespace by namespace.  A namespace that fails yields no files and a
critical issue; the result holds the packages of all others.
-/

namespace ShapeForge.Emit

structure GenerateResult where
  packages : List Package := []
  /-- The selected namespaces, with the failure of those that have no package. -/
  spaces : List (String × Option Fault) := []
  issues : List Issue := []
  sourcePath : String := ""
  sourceVersion : String := ""
  sourceFormat : Option SourceFormat := none
  sourceSize : Nat := 0
  modulePath : String := ""
  dependencies : Dependencies := {}
  infoCount : Nat := 0
  warningCount : Nat := 0
  criticalCount : Nat := 0
  deriving Repr, Inhabited

namespace GenerateResult

def success (result : GenerateResult) : Bool :=
  result.criticalCount == 0

def types (result : GenerateResult) : Nat :=
  result.packages.foldl (fun sum package => sum + package.types) 0

def operations (result : GenerateResult) : Nat :=
  result.packages.foldl (fun sum package => sum + package.operations) 0

def package? (result : GenerateResult) (space : String) : Option Package :=
  result.packages.find? (·.space == space)

end GenerateResult

/-- The namespaces to generate: all but the prelude, restricted to the listed ones if there are
any. -/
def selectSpaces (listed all : List String) : List String :=
  all.filter fun space =>
    space != ShapeId.preludeSpace && (listed.isEmpty || listed.contains space)

def danglingIn (model : Model) (space : String) : List Reference :=
  model.dangling.filter (·.origin.nameSpace == space)

structure Outcome where
  space : String
  result : Except Fault Package
  issues : List Issue

namespace Outcome

/-- All issues of a namespace; a failure is a critical one. -/
def allIssues (outcome : Outcome) : List Issue :=
  match outcome.result with
  | .ok _ => outcome.issues
  | .error fault =>
    outcome.issues ++
      [{ path := outcome.space, message := fault.message, severity := Severity.critical }]

def package? (outcome : Outcome) : Option Package :=
  outcome.result.toOption

def cause? (outcome : Outcome) : Option Fault :=
  match outcome.result with
  | .ok _ => none
  | .error fault => some fault

def fault? (outcome : Outcome) : Option Fault :=
  outcome.cause?.map (.context ("generator: namespace " ++ outcome.space))

end Outcome

/-- A loaded model with everything that is merged into it. -/
structure Merged where
  model : Model
  dependencies : Dependencies

def merge (settings : Settings) (loaded : LoadedModel) : Except Fault Merged := do
  let dependencies := settings.dependencies.foldl (fun table (model, version) =>
    model.namespaces.foldl (fun table space => table.set space version) table)
    loaded.dependencies
  let model ← (loaded.model.merge (settings.dependencies.map (·.1))).mapError
    (.context "generator: failed to merge dependencies")
  return { model, dependencies }

def outcomeOf (settings : Settings) (loaded : LoadedModel) (merged : Merged)
    (plans : List PackagePlan) (space : String) : Outcome :=
  match danglingIn merged.model space with
  | [] =>
    let (result, issues) := emitPackage
      { settings
        model := merged.model
        plans
        plan := (planOf? plans space).getD {}
        dependencies := merged.dependencies
        sourcePath := loaded.sourcePath }
    { space, result := result.map (·.1), issues }
  | references =>
    { space, result := .error (.several (references.map Reference.fault)), issues := [] }

def countIssues (severity : Severity) (issues : List Issue) : Nat :=
  issues.countP (·.severity == some severity)

def resultOf (settings : Settings) (loaded : LoadedModel) (dependencies : Dependencies)
    (outcomes : List Outcome) : GenerateResult :=
  let issues := outcomes.flatMap Outcome.allIssues
  { packages := outcomes.filterMap Outcome.package?
    spaces := outcomes.map fun outcome => (outcome.space, outcome.cause?)
    issues := if settings.includeInfo then issues
      else issues.filter (·.severity != some .info)
    sourcePath := loaded.sourcePath
    sourceVersion := loaded.version
    sourceFormat := loaded.format
    sourceSize := loaded.size
    modulePath := settings.module
    dependencies
    infoCount := if settings.includeInfo then countIssues .info issues else 0
    warningCount := countIssues .warning issues
    criticalCount := countIssues .critical issues }

def failureOf (settings : Settings) (outcomes : List Outcome) (result : GenerateResult) :
    Option Fault :=
  match Fault.join (outcomes.filterMap Outcome.fault?) with
  | some fault => some fault
  | none =>
    if settings.strict && (result.criticalCount > 0 || result.warningCount > 0) then
      some (.plain ("generator: generation failed in strict mode: " ++
        toString result.criticalCount ++ " critical issue(s), " ++
        toString result.warningCount ++ " warning(s)"))
    else none

/-- Generate a loaded model.  A result may come with a failure of some of its namespaces. -/
def generateLoaded (settings : Settings) (loaded : LoadedModel) :
    Except Fault (GenerateResult × Option Fault) := do
  let merged ← merge settings loaded
  let plans := planPackages settings.module settings.overrides merged.model.namespaces
  let spaces := selectSpaces settings.namespaces loaded.model.namespaces
  let outcomes := spaces.map (outcomeOf settings loaded merged plans)
  let result := resultOf settings loaded merged.dependencies outcomes
  return (result, failureOf settings outcomes result)

end ShapeForge.Emit
