import ShapeForge.Cli.Flag
import ShapeForge.Fault

/-!
# Commands

The commands, their flags and their descriptions.
-/

namespace ShapeForge.Cli

inductive Arity where
  | none
  | exactly (count : Nat)
  | any
  deriving Repr, DecidableEq

inductive Action where
  | generate
  | publish
  | inspect
  | mock
  | serve
  | tools
  | version
  | help
  | completion
  deriving Repr, DecidableEq

structure Command where
  action : Action
  name : String
  operands : String := ""
  arity : Arity
  short : String
  long : String := ""
  example_ : String := ""
  flags : List Flag := []

def programName : String := "smithygen"

def globalFlags : List Flag :=
  [{ name := "config", usage := "config file (default ./smithygen.yaml)" },
    { name := "log-level", usage := "log level: debug, info, warn or error" },
    { name := "log-json", type := .truth, usage := "write logs as JSON" }]

def helpFlag (name : String) : Flag :=
  { name := "help", letter := some 'h', type := .truth, usage := "help for " ++ name }

def versionFlag : Flag :=
  { name := "version", letter := some 'v', type := .truth, usage := "version for " ++ programName }

namespace Command

def paragraph (lines : List String) : String :=
  "\n".intercalate lines

def moduleFlag : Flag :=
  { name := "module", usage := "module path prefixing generated import paths" }

def policyFlag : Flag :=
  { name := "policy", usage := "namespaces with several services: multiple or single" }

def strictFlag : Flag :=
  { name := "strict", type := .truth, usage := "fail on warnings" }

def seedFlag (usage : String) : Flag :=
  { name := "seed", type := .natural, usage }

def listSizeFlag (usage : String) : Flag :=
  { name := "list-size", type := .whole, usage }

def buildFlag : Flag :=
  { name := "build-command"
    usage := "command building a .smithy source, with \x7bsource\x7d and \x7boutput\x7d " ++
      "placeholders" }

def registryFlags (usage : String) : List Flag :=
  [{ name := "registry", usage := "root directory of the package registry" },
    { name := "registry-name", usage }]

def sourceFlag : Flag :=
  { name := "source"
    usage := "IDL source whose use directives name the model's dependencies" }

def formatFlag (default usage : String) : Flag :=
  { name := "format", letter := some 'f', usage, default }

def generate : Command where
  action := .generate
  name := "generate"
  operands := "<model>"
  arity := .exactly 1
  short := "Generate Go packages from a Smithy model"
  long := paragraph
    ["Generate one Go package per namespace of a Smithy JSON AST model.",
      "",
      "A .smithy argument is built with build.command first. Dependencies named",
      "by the IDL's use directives are resolved against the local registry and",
      "imported from their published packages."]
  example_ := paragraph
    ["  smithygen generate model.json -o gen",
      "  smithygen generate --module github.com/acme/api --policy single model.json",
      "  smithygen generate --source weather.smithy --watch build/weather.json"]
  flags :=
    [{ name := "output", letter := some 'o'
       usage := "directory generated packages are written to (default gen)" },
      moduleFlag, policyFlag,
      { name := "namespace", type := .texts
        usage := "only generate these namespaces (repeatable)" },
      strictFlag,
      { name := "concurrency", type := .whole
        usage := "namespaces emitted in parallel (0 uses GOMAXPROCS)" },
      seedFlag "seed of the mock data baked into mocks and tests",
      listSizeFlag "elements synthesized for mock lists and maps",
      buildFlag] ++
    registryFlags "registry dependency versions are resolved in" ++
    [sourceFlag,
      { name := "watch", letter := some 'w', type := .truth
        usage := "regenerate whenever the model or source changes" }]

def publish : Command where
  action := .publish
  name := "publish"
  operands := "<source-or-model>"
  arity := .exactly 1
  short := "Generate and publish packages to the local registry"
  long := paragraph
    ["Generate every namespace of a model and publish each package to the",
      "registry under its next patch version (1.0.0 for a new package). The model",
      "is published next to the generated files so dependent models can import",
      "it later. Nothing is published unless every namespace generates."]
  example_ := paragraph
    ["  smithygen publish weather.smithy --build-command \"smithy ast \x7bsource\x7d -o " ++
        "\x7boutput\x7d\"",
      "  smithygen publish --registry /srv/registry build/weather.json"]
  flags :=
    [moduleFlag, policyFlag, strictFlag,
      seedFlag "seed of the mock data baked into mocks and tests",
      listSizeFlag "elements synthesized for mock lists and maps",
      buildFlag] ++
    registryFlags "registry packages are published to" ++ [sourceFlag]

def inspect : Command where
  action := .inspect
  name := "inspect"
  operands := "<model>"
  arity := .exactly 1
  short := "Summarize the shapes and services of a model"
  example_ := paragraph
    ["  smithygen inspect model.json", "  smithygen inspect --format yaml model.json"]
  flags := [formatFlag "text" "output format: text, json or yaml"]

def mock : Command where
  action := .mock
  name := "mock"
  operands := "<model> <shape-id>"
  arity := .exactly 2
  short := "Synthesize deterministic mock data for a shape"
  long := paragraph
    ["Synthesize a mock value for a shape and print it as JSON or YAML.",
      "The same seed always produces the same value. Recursive shapes stop at the",
      "first repeated reference, leaving optional members unset and lists empty."]
  example_ := paragraph
    ["  smithygen mock model.json example.weather#Forecast",
      "  smithygen mock --seed 42 --list-size 2 --format yaml model.json " ++
        "example.weather#Forecast"]
  flags :=
    [seedFlag "seed of the synthesized values (default 1)",
      listSizeFlag "elements synthesized for lists and maps (default 5)",
      formatFlag "json" "output format: json or yaml"]

def serve : Command where
  action := .serve
  name := "serve"
  operands := "<model>"
  arity := .exactly 1
  short := "Serve mock responses for a service's HTTP operations"
  long := paragraph
    ["Start an HTTP server answering every operation of a service that has",
      "an http trait with mock output. Request bodies, labels and query",
      "parameters are checked against the operation input's required members.",
      "Prometheus metrics are exposed on /metrics."]
  example_ := paragraph
    ["  smithygen serve model.json",
      "  smithygen serve --service example.catalog#Catalog --addr :9090 model.json"]
  flags :=
    [{ name := "service"
       usage := "service to serve; required when the model declares several" },
      { name := "addr", usage := "listen address (default 127.0.0.1:8080)" },
      seedFlag "seed of the mock responses",
      listSizeFlag "elements synthesized for lists and maps"]

def tools : Command where
  action := .tools
  name := "mcp"
  arity := .none
  short := "Run the MCP server over stdio"
  long := paragraph
    ["Run a Model Context Protocol server on stdin/stdout exposing the",
      "inspect, generate, mock and check tools. The server is configured with",
      "SMITHYGEN_MCP_* environment variables."]

def version : Command where
  action := .version
  name := "version"
  arity := .none
  short := "Print the smithygen version"

def help : Command where
  action := .help
  name := "help"
  operands := "[command]"
  arity := .any
  short := "Help about any command"
  long := paragraph
    ["Help provides help for any command in the application.",
      "Simply type smithygen help [path to command] for full details."]

def completion : Command where
  action := .completion
  name := "completion"
  arity := .none
  short := "Generate the autocompletion script for the specified shell"

def all : List Command :=
  [generate, publish, inspect, mock, serve, tools, version, help, completion]

def named? (name : String) : Option Command :=
  all.find? (·.name == name)

def path (command : Command) : String :=
  programName ++ " " ++ command.name

def allFlags (command : Command) : List Flag :=
  command.flags ++ globalFlags ++ [helpFlag command.name]

def checkArguments (command : Command) (arguments : List String) : Except Fault Unit :=
  match command.arity, arguments with
  | .none, first :: _ =>
    .error (.plain ("unknown command " ++ Text.quote first ++ " for " ++
      Text.quote command.path))
  | .exactly count, _ =>
    if arguments.length == count then .ok ()
    else .error (.plain ("accepts " ++ toString count ++ " arg(s), received " ++
      toString arguments.length))
  | _, _ => .ok ()

end Command

end ShapeForge.Cli
