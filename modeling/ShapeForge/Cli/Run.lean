import ShapeForge.Cli.Generate
import ShapeForge.Cli.Help
import ShapeForge.Cli.Serve
import ShapeForge.Watch

/-!
# The command line

A command line is read, the configuration is loaded with the flags over it, and the command is run.
Most commands finish; the others leave something that goes on.
-/

namespace ShapeForge.Cli

inductive Next where
  | finished (status : Nat)
  /-- Packages are generated again whenever a file changes. -/
  | watching (desk : Desk) (input : RunInput) (watcher : Watcher)
  | serving (desk : Desk) (server : Server.Server)
  | talking

def settingKeys : List (String × String) :=
  [("output", "output"), ("module", "module_path"), ("policy", "policy"),
    ("concurrency", "concurrency"), ("namespace", "namespaces"), ("strict", "strict"),
    ("seed", "mock.seed"), ("list-size", "mock.list_size"), ("registry", "registry.root"),
    ("registry-name", "registry.name"), ("build-command", "build.command"),
    ("addr", "server.addr"), ("log-level", "log.level"), ("log-json", "log.json")]

/-- The value of a flag as a setting.  A number that has no sign is read as one that has, and is
zero if it is too large for that. -/
def FlagValue.setting : FlagValue → ConfigValue
  | .text value => .text value
  | .truth value => .bool value
  | .whole value => .int value
  | .natural value => .int (if value < Word.signedCount then value else 0)
  | .texts values => .list (values.map .text)

def flagSettings (line : Line) : List (String × ConfigValue) :=
  settingKeys.filterMap fun (name, key) =>
    (line.value? name).map fun value => (key, value.setting)

def configHint : String :=
  "check smithygen.yaml, SMITHYGEN_* variables and command flags"

def setUp (surroundings : Surroundings) (line : Line) : Job Desk := do
  let file ← Job.check (Config.fileTable (← get).tree (line.text "config"))
  let config ← Job.check ((Config.resolve
    { flags := flagSettings line, environment := surroundings.environment, file }).mapError
      (.hinted configHint))
  let level ← Job.check (Log.Level.parse config.logLevel)
  return { surroundings, config
           logger := { level, form := if config.logJson then .json else .console } }

def watch (desk : Desk) (input : RunInput) : Job Watcher := do
  match ← runPipeline desk (pipelineOf desk.config false) input with
  | (result, none) => Job.print (generatedText desk result)
  | (_, some fault) => modify fun screen => screen.report fault
  let files := [input.model, input.source].filter (!·.isEmpty)
  let watcher ← Job.check
    (Watcher.ofFiles (← get).tree desk.surroundings.directory files)
  Job.note desk .info "watching for changes" [("files", .strings files)]
  return watcher

def changed (desk : Desk) (input : RunInput) (file : String) (screen : Screen) : Screen :=
  let ((result : Except Fault Unit), screen) := (do
    Job.note desk .info "regenerating" [("file", .string (Path.base file))]
    regenerate desk input : Job Unit).run screen
  match result with
  | .ok _ => screen
  | .error fault =>
    screen.complain (desk.logger.text desk.surroundings.seconds
      [{ level := .error, message := "regeneration failed"
         fields := [("file", .string file), ("error", .string fault.message)] }])

def helpFor (words : List String) : Job Unit :=
  match choose words with
  | .ok (some command, _) => Job.print command.helpText
  | .ok (none, _) => Job.print programHelp
  | .error _ =>
    Job.complain ("Unknown help topic [" ++
      " ".intercalate (words.map fun word => "\x60" ++ word ++ "\x60") ++ "]\n" ++
      programUsage)

def argument (line : Line) (index : Nat) : String :=
  line.arguments.getD index ""

def act (desk : Desk) (line : Line) : Action → Job Next
  | .generate => do
    let input := RunInput.ofArgument (argument line 0) (line.text "source")
    if line.isSet "watch" then
      return .watching desk input (← watch desk input)
    generate desk input
    return .finished 0
  | .publish => do
    publish desk (RunInput.ofArgument (argument line 0) (line.text "source"))
    return .finished 0
  | .inspect => do
    inspect desk (line.text "format" "text") (argument line 0)
    return .finished 0
  | .mock => do
    mock desk (line.text "format" "json") (argument line 0) (argument line 1)
    return .finished 0
  | .serve => do
    return .serving desk (← makeServer desk (line.text "service") (argument line 0))
  | .tools => return .talking
  | .version => do
    Job.print versionText
    return .finished 0
  | .help => do
    helpFor line.arguments
    return .finished 0
  | .completion => do
    Job.print Command.completion.helpText
    return .finished 0

def runCommand (surroundings : Surroundings) (command : Command) (words : List String) :
    Job Next := do
  let line ← Job.check ((Line.read command.allFlags words).mapError fun problem =>
    .plain problem.message)
  if line.isSet "help" then
    Job.print command.helpText
    return .finished 0
  Job.check (command.checkArguments line.arguments)
  let desk ← setUp surroundings line
  act desk line command.action

def runProgram (words : List String) : Job Next := do
  let line ← Job.check
    ((Line.read (globalFlags ++ [helpFlag programName, versionFlag]) words).mapError
      fun problem => .plain problem.message)
  Job.print (if line.isSet "version" && !line.isSet "help" then versionText else programHelp)
  return .finished 0

def job (surroundings : Surroundings) (words : List String) : Job Next := do
  match ← Job.check (choose words) with
  | (some command, words) => runCommand surroundings command words
  | (none, words) => runProgram words

/-- End a job: a failure is reported. -/
def finish {α : Type} (job : Job α) (screen : Screen) : Except Nat α × Screen :=
  match job.run screen with
  | (.ok value, screen) => (.ok value, screen)
  | (.error fault, screen) => (.error 1, screen.report fault)

def run (surroundings : Surroundings) (tree : FileTree) (words : List String) : Next × Screen :=
  match finish (job surroundings words) { tree } with
  | (.ok next, screen) => (next, screen)
  | (.error status, screen) => (.finished status, screen)

end ShapeForge.Cli
