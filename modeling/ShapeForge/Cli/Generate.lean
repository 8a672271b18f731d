import ShapeForge.Cli.Screen
import ShapeForge.Pipeline

/-!
# Generating and publishing packages

The commands that run the generation workflow, and what they tell about it.
-/

namespace ShapeForge.Cli

/-- The workflow of a configuration; packages are written unless they are published. -/
def pipelineOf (config : Config) (publishes : Bool) : Pipeline :=
  let registry : Registry := ⟨config.registryRoot⟩
  let store : Publisher := ⟨registry, config.registryName⟩
  { builder := if config.buildCommand.isEmpty then none else some (.command config.buildCommand)
    resolver := some registry
    loader := some store
    publisher := if publishes then some store else none
    registry := config.registryName
    output := if publishes then "" else config.output
    options := config.generateOptions }

def issueLines (result : Option RunResult) : String :=
  match result.bind (·.generated) with
  | none => ""
  | some generated =>
    let issues := generated.issues.mergeSort fun left right => right.rank ≤ left.rank
    String.join (issues.map fun issue => "  " ++ issue.text ++ "\n")

def packageLine (output : String) (package : Emit.Package) : String :=
  "  " ++ package.importPath ++ " -> " ++ Path.join [output, package.dir] ++ " (" ++
    toString package.files.length ++ " file(s))\n"

def generatedText (desk : Desk) (result : Option RunResult) : String :=
  let generated := (result.bind (·.generated)).getD {}
  "Generated " ++ toString generated.packages.length ++ " package(s), " ++
    toString generated.types ++ " type(s), " ++ toString generated.operations ++
    " operation(s) in " ++ desk.surroundings.elapsed.text ++ "\n" ++
    String.join (generated.packages.map (packageLine desk.config.output)) ++
    if generated.warningCount > 0 then
      "Warnings: " ++ toString generated.warningCount ++ "\n" ++ issueLines result
    else ""

def runPipeline (desk : Desk) (pipeline : Pipeline) (input : RunInput) :
    Job (Option RunResult × Option Fault) := do
  let outcome := pipeline.run (← get).tree input
  modify fun screen => { screen with tree := outcome.tree }
  Job.log desk outcome.journal
  return (outcome.result, outcome.fault)

def runOrComplain (desk : Desk) (pipeline : Pipeline) (input : RunInput) :
    Job (Option RunResult) := do
  match ← runPipeline desk pipeline input with
  | (result, none) => return result
  | (result, some fault) =>
    Job.complain (issueLines result)
    throw fault

def generate (desk : Desk) (input : RunInput) : Job Unit := do
  let result ← runOrComplain desk (pipelineOf desk.config false) input
  Job.print (generatedText desk result)

def regenerate (desk : Desk) (input : RunInput) : Job Unit := do
  match ← runPipeline desk (pipelineOf desk.config false) input with
  | (result, none) => Job.print (generatedText desk result)
  | (_, some fault) => throw fault

def publish (desk : Desk) (input : RunInput) : Job Unit := do
  let result ← runOrComplain desk (pipelineOf desk.config true) input
  let published := ((result.map (·.published)).getD []).mergeSort
    fun left right => left.1 ≤ right.1
  Job.print (String.join (published.map fun (space, version) =>
    "Published " ++ space ++ " " ++ version.text ++ " to " ++ desk.config.registryName ++ "\n"))

end ShapeForge.Cli
