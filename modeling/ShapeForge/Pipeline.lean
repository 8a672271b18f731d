import ShapeForge.Emit.Request
import ShapeForge.Log.Entry
import ShapeForge.Publisher
import ShapeForge.Shell.Command
import ShapeForge.Shell.Words

/-!
# The generation workflow

A run builds the source of a model or reads the model, resolves the versions of what it depends
on, generates its packages, and writes or publishes them.  Packages are published only if every
namespace was generated.  A run keeps a journal of what it did.
-/

namespace ShapeForge

inductive Builder where
  | command (text : String)
  | given (model : String)

/-- The files that a run starts from; an empty path is absent. -/
structure RunInput where
  source : String := ""
  model : String := ""
  deriving Repr, DecidableEq

namespace RunInput

def sourceEnding : String := ".smithy"

/-- The files that the argument of a command means: a source is built, and anything else is a model
that may come with its source. -/
def ofArgument (argument source : String) : RunInput :=
  if Text.equalFold (Path.ext argument) sourceEnding then { source := argument }
  else { model := argument, source }

end RunInput

structure Pipeline where
  builder : Option Builder := none
  resolver : Option Registry := none
  loader : Option Publisher := none
  publisher : Option Publisher := none
  registry : String := ""
  output : String := ""
  options : List Emit.GenerateOption := []

structure RunResult where
  generated : Option Emit.GenerateResult := none
  published : List (String × Version) := []

structure RunState where
  tree : FileTree
  journal : List Log.Entry := []
  result : Option RunResult := none

abbrev Run (α : Type) := ExceptT Fault (StateM RunState) α

namespace Run

def note (level : Log.Level) (message : String) (fields : List (String × Log.Value) := []) :
    Run Unit :=
  modify fun state => { state with journal := state.journal ++ [{ level, message, fields }] }

def check {α : Type} (result : Except Fault α) : Run α :=
  match result with
  | .ok value => pure value
  | .error fault => throw fault

def disk {α : Type} (work : Disk α) : Run α := do
  let state ← get
  let (result, tree) := work.on state.tree
  set { state with tree }
  check result

def ask {α : Type} (question : FileTree → Except Fault α) : Run α := do
  check (question (← get).tree)

end Run

namespace Pipeline

def sourcePlace : String := "\x7bsource\x7d"

def outputPlace : String := "\x7boutput\x7d"

def buildDir : String := "/tmp/smithygen-build-1"

def fillWords (source output : String) (words : List String) : List String :=
  words.map fun word =>
    Text.replaceAll (Text.replaceAll word sourcePlace source) outputPlace output

def hasOutput (word : String) : Bool :=
  Text.containsWord outputPlace.toList word.toList

/-- Build a model by a command; without any output there is no model. -/
def runCommand (text source : String) : Run (Option String) := do
  let words ← match Shell.words text with
    | .ok words => pure words
    | .error problem =>
      throw (.hinted "check the quoting of build.command"
        (.context ("pipeline: invalid build command " ++ Text.quote text)
          (.plain problem.message)))
  if words.isEmpty then
    throw (.hinted "set build.command or pass an already built model"
      (.plain "pipeline: no build command configured"))
  let toFile := words.any hasOutput
  let outFile := if toFile then Path.join [buildDir, "model.json"] else ""
  if toFile then Run.disk (Disk.change (·.makeDirs buildDir))
  let words := fillWords source outFile words
  let dir := Path.dir source
  Run.note .debug "running build command" [("args", .strings words), ("dir", .string dir)]
  let outcome ← match Shell.run dir (← get).tree words with
    | .ok outcome => pure outcome
    | .error problem => throw (failed (.plain problem.message) "")
  modify fun state => { state with tree := outcome.tree }
  if outcome.status != 0 then
    throw (failed (.plain ("exit status " ++ toString outcome.status)) outcome.errors)
  if !toFile then
    return if outcome.output.isEmpty then none else some outcome.output
  match outcome.tree.readFile outFile with
  | .ok model => return some model
  | .error fault =>
    throw (.hinted ("the build command must write the model to " ++ outputPlace)
      (.context "pipeline: build produced no model" fault))
where
  failed (fault : Fault) (errors : String) : Fault :=
    .hinted ("build output:\n" ++ Text.trim errors)
      (.context ("pipeline: build of " ++ source ++ " failed") fault)

/-- Run a step, and remove the files of builds whether it fails or not. -/
def cleanly {α : Type} (step : Run α) : Run α :=
  ExceptT.mk do
    let result ← step.run
    modify fun state => { state with tree := state.tree.remove buildDir }
    return result

def build (builder : Builder) (source : String) : Run (Option String) :=
  match builder with
  | .command text => cleanly (runCommand text source)
  | .given model => pure (some model)

def obtain (pipeline : Pipeline) (input : RunInput) : Run (Option String × String) := do
  if !input.model.isEmpty then
    let text ← Run.ask fun tree => (tree.readFile input.model).mapError
      (.context ("pipeline: reading model " ++ input.model))
    return (some text, input.model)
  else if !input.source.isEmpty then
    match pipeline.builder with
    | none =>
      throw (.hinted "configure build.command or pass the built model"
        (.plain ("pipeline: " ++ input.source ++ " needs to be built")))
    | some builder =>
      Run.note .info "building" [("source", .string input.source)]
      let model ← build builder input.source
      let base := Path.base input.source
      let stem := (base.dropEnd (Path.ext input.source).length).toString
      return (model, stem ++ ".json")
  else throw (.plain "pipeline: no source or model given")

def load (input : RunInput) (text : Option String) (name : String) : Run LoadedModel := do
  let loaded ← Run.ask fun tree =>
    (LoadRequest.run tree
      { sources := [.text text]
        sourceName := some name
        sourceFile := if input.source.isEmpty then none else some input.source }).mapError
      (.context ("pipeline: loading " ++ name))
  Run.note .debug "loaded model"
    [("source", .string ""), ("shapes", .int loaded.model.shapes.length),
      ("namespaces", .int loaded.model.namespaces.length)]
  Run.note .info "loaded model"
    [("source", .string name), ("shapes", .int loaded.model.shapes.length),
      ("dependencies", .int loaded.dependencies.entries.length)]
  return loaded

def loadDependencies (pipeline : Pipeline) :
    List (String × Option Version) → Run (List Emit.GenerateOption)
  | [] => return []
  | (space, none) :: rest => do
    Run.note .warn "dependency has no published version" [("namespace", .string space)]
    loadDependencies pipeline rest
  | (space, some version) :: rest => do
    Run.note .info "resolved dependency"
      [("namespace", .string space), ("version", .string version.text)]
    let option ← match pipeline.loader with
      | none => pure []
      | some loader => do
        let model ← Run.ask fun tree => loader.load tree space version
        pure [Emit.GenerateOption.dependency (some model) (some version)]
    return option ++ (← loadDependencies pipeline rest)

def resolve (pipeline : Pipeline) (loaded : LoadedModel) :
    Run (LoadedModel × List Emit.GenerateOption) := do
  match pipeline.resolver with
  | none => return (loaded, [])
  | some registry =>
    if loaded.dependencies.isEmpty then return (loaded, [])
    let dependencies ← Run.ask fun tree =>
      (registry.resolve tree pipeline.registry loaded.dependencies).mapError
        (.context "pipeline: resolving dependency versions")
    let options ← pipeline.loadDependencies dependencies.entries
    return ({ loaded with dependencies }, options)

def publishAll (pipeline : Pipeline) (publisher : Publisher) (registry : Registry)
    (model : String) : List Emit.Package → Run Unit
  | [] => return
  | package :: rest => do
    let version ← Run.ask fun tree =>
      (registry.next tree package.space pipeline.registry).mapError
        (.context ("pipeline: computing version of " ++ package.space))
    Run.disk (publisher.publish package.space
      (package.files ++ [{ name := Publisher.modelFile, content := model }]) version)
    modify fun state => { state with
      result := state.result.map fun result =>
        { result with published := result.published ++ [(package.space, version)] } }
    Run.note .info "published"
      [("namespace", .string package.space), ("version", .string version.text)]
    publishAll pipeline publisher registry model rest

def publish (pipeline : Pipeline) (model : String) (packages : List Emit.Package) :
    Run Unit := do
  match pipeline.publisher, pipeline.resolver with
  | none, _ => return
  | some _, none => throw (.plain "pipeline: publishing needs a version resolver")
  | some publisher, some registry => pipeline.publishAll publisher registry model packages

/-- The failure of generation; a missing shape may be one of a dependency. -/
def generationFault (fault : Fault) : Fault :=
  let wider := Fault.context "pipeline: generation failed" fault
  if fault.is .reference then
    .hinted "publish the missing dependency or add its model with a use directive" wider
  else wider

def noteSpaces (result : Emit.GenerateResult) : List (String × Option Fault) → Run Unit
  | [] => return
  | (space, some fault) :: rest => do
    Run.note .debug "namespace failed"
      [("namespace", .string space), ("error", .string fault.message)]
    noteSpaces result rest
  | (space, none) :: rest => do
    if let some package := result.package? space then
      Run.note .debug "generated namespace"
        [("namespace", .string space), ("package", .string package.importPath),
          ("files", .int package.files.length)]
    noteSpaces result rest

def steps (pipeline : Pipeline) (input : RunInput) : Run Unit := do
  let (text, name) ← pipeline.obtain input
  let loaded ← load input text name
  let (loaded, dependencies) ← pipeline.resolve loaded
  let options := pipeline.options ++ dependencies ++ [.loaded (some loaded)]
  let generated := Emit.generate (← get).tree options
  modify fun state => { state with
    result := some { generated := (generated.toOption.map (·.1)) } }
  match generated with
  | .error fault => throw (generationFault fault)
  | .ok (result, failure) =>
    noteSpaces result result.spaces
    if let some fault := failure then throw (generationFault fault)
    Run.note .info "generated"
      [("packages", .int result.packages.length), ("types", .int result.types),
        ("operations", .int result.operations)]
    if !pipeline.output.isEmpty then
      Run.disk (Disk.within (.context "pipeline: writing output")
        (Emit.writePackages pipeline.output result.packages))
      Run.note .info "wrote packages" [("dir", .string pipeline.output)]
    pipeline.publish (text.getD "") result.packages

structure RunOutcome where
  tree : FileTree
  journal : List Log.Entry
  result : Option RunResult
  fault : Option Fault

def run (pipeline : Pipeline) (tree : FileTree) (input : RunInput) : RunOutcome :=
  let (result, state) := (pipeline.steps input).run.run { tree }
  { tree := state.tree
    journal := state.journal
    result := state.result
    fault := match result with
      | .ok _ => none
      | .error fault => some fault }

end Pipeline

end ShapeForge
