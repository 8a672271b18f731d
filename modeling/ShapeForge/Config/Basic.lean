import ShapeForge.Config.Read
import ShapeForge.Emit.Request

/-!
# Configuration

The settings of a run.  Each comes from a flag, else from an environment variable, else from the
configuration file, else it has its default.  All settings are checked, and all that are wrong are
reported together.
-/

namespace ShapeForge

structure Config where
  output : String
  modulePath : String
  /-- Namespaces with the import paths of their packages. -/
  packages : List (String × String)
  policy : String
  concurrency : Int
  namespaces : List String
  strict : Bool
  seed : Nat
  listSize : Int
  registryRoot : String
  registryName : String
  buildCommand : String
  address : String
  logLevel : String
  logJson : Bool
  deriving Repr, Inhabited, DecidableEq

structure ConfigSources where
  flags : List (String × ConfigValue) := []
  environment : List (String × String) := []
  file : ConfigValue := .table []

namespace ConfigSources

def variableName (key : String) : String :=
  "SMITHYGEN_" ++ Text.upper (Text.replaceAll key "." "_")

/-- The value of an environment variable; an empty one is not set. -/
def environment? (sources : ConfigSources) (key : String) : Option ConfigValue :=
  ((sources.environment.find? (·.1 == variableName key)).filter (!·.2.isEmpty)).map
    fun (_, value) => .text value

def defaults : List (String × ConfigValue) :=
  [("output", .text "gen"),
    ("module_path", .text "generated"),
    ("packages", .list []),
    ("policy", .text "multiple"),
    ("concurrency", .int 0),
    ("namespaces", .list []),
    ("strict", .bool false),
    ("mock.seed", .int 1),
    ("mock.list_size", .int 5),
    ("registry.root", .text ".smithygen/registry"),
    ("registry.name", .text "local"),
    ("build.command", .text ""),
    ("server.addr", .text "127.0.0.1:8080"),
    ("log.level", .text "info"),
    ("log.json", .bool false)]

def given? : Option ConfigValue → Option ConfigValue
  | some .null => none
  | value => value

def inFile? (sources : ConfigSources) (key : String) : Option ConfigValue :=
  match given? (sources.file.get? key), Text.cutAt '.' key with
  | some value, _ => some value
  | none, some (section_, name) => given? ((sources.file.get? section_).bind (·.get? name))
  | none, none => none

/-- Whether a variable for the whole section of a setting hides the setting. -/
def isHidden (sources : ConfigSources) (key : String) : Bool :=
  match Text.cutAt '.' key with
  | some (section_, _) => (sources.environment? section_).isSome
  | none => false

/-- The value of a setting, from the source that comes first. -/
def value (sources : ConfigSources) (key : String) : ConfigValue :=
  let flag := (sources.flags.find? (·.1 == key)).map (·.2)
  let ordinary :=
    if sources.isHidden key then some .null
    else ((sources.inFile? key).or ((defaults.find? (·.1 == key)).map (·.2)))
  (flag.or ((sources.environment? key).or ordinary)).getD .null

def sections : List String :=
  ["mock", "registry", "build", "server", "log"]

def sectionFits (sources : ConfigSources) (name : String) : Bool :=
  match given? (sources.file.get? name) with
  | none => true
  | some (.table _) => true
  | some _ => false

end ConfigSources

namespace Config

def undecodable {α : Type} (problem : String) : Except Fault α :=
  .error (.config "config" none "cannot decode configuration" (some (.plain problem)))

def decode {α : Type} (sources : ConfigSources) (key : String)
    (read : ConfigValue → Option α) : Except Fault α :=
  match read (sources.value key) with
  | some value => .ok value
  | none => undecodable ("'" ++ key ++ "' has a value of the wrong type")

/-- A package override: a table with two texts. -/
def override? : ConfigValue → Option (String × String)
  | .table fields => do
    let space ← (((ConfigValue.table fields).get? "namespace").getD .null).asText?
    let path ← (((ConfigValue.table fields).get? "import_path").getD .null).asText?
    some (space, path)
  | .null => some ("", "")
  | _ => none

def ofSources (sources : ConfigSources) : Except Fault Config := do
  if !ConfigSources.sections.all sources.sectionFits then
    undecodable "a section is not a table"
  return {
    output := ← decode sources "output" (·.asText?)
    modulePath := ← decode sources "module_path" (·.asText?)
    packages := ← decode sources "packages" (·.asList.mapM override?)
    policy := Text.lower (← decode sources "policy" (·.asText?))
    concurrency := ← decode sources "concurrency" (·.asInt?)
    namespaces := ← decode sources "namespaces" (·.asList.mapM (·.asText?))
    strict := ← decode sources "strict" (·.asBool?)
    seed := ← decode sources "mock.seed" (·.asWord?)
    listSize := ← decode sources "mock.list_size" (·.asInt?)
    registryRoot := ← decode sources "registry.root" (·.asText?)
    registryName := ← decode sources "registry.name" (·.asText?)
    buildCommand := ← decode sources "build.command" (·.asText?)
    address := ← decode sources "server.addr" (·.asText?)
    logLevel := Text.lower (← decode sources "log.level" (·.asText?))
    logJson := ← decode sources "log.json" (·.asBool?) }

def splitAddress? (address : String) : Option (String × String) := do
  let (host, port) ← Text.cutLast ':' address
  match host.toList with
  | '[' :: inside =>
    match inside.span (· != ']') with
    | (name, [_]) =>
      if name.contains '[' || port.toList.contains '[' || port.toList.contains ']' then none
      else some (String.ofList name, port)
    | _ => none
  | chars =>
    if chars.contains ':' || (address.toList.any fun c => c == '[' || c == ']') then none
    else some (host, port)

/-- A part of a host name: letters, digits and hyphens, at most 63 of them, and no hyphen in
front. -/
def isHostLabel (label : List Char) : Bool :=
  match label with
  | first :: rest => first.isAlphanum && rest.length ≤ 62 &&
      rest.all fun c => c.isAlphanum || c == '-'
  | [] => false

def isPort (text : String) : Bool :=
  let digits := match text.toList with
    | '+' :: rest => rest
    | chars => chars
  if digits.isEmpty || !digits.all Char.isDigit then false
  else
    let value := digits.foldl (fun value c => value * 10 + (c.toNat - '0'.toNat)) 0
    1 ≤ value && value ≤ 65535

def isAddress (text : String) : Bool :=
  match splitAddress? text with
  | some (host, port) =>
    isPort port &&
      (host.isEmpty || (Text.splitWhere (· == '.') host.toList).all isHostLabel)
  | none => false

def wrong (option value problem : String) : Fault :=
  .config option (some value) problem none

def needed (option value : String) : List Fault :=
  if value.isEmpty then [wrong option value "is required"] else []

def oneOf (option value : String) (words : List String) : List Fault :=
  if words.contains value then []
  else [wrong option value ("must be one of " ++ ", ".intercalate words)]

def atLeastZero (option : String) (value : Int) : List Fault :=
  if value < 0 then [wrong option (toString value) "must be at least 0"] else []

def packageFaults (number : Nat) : List (String × String) → List Fault
  | [] => []
  | (space, path) :: rest =>
    let option := s!"packages[{number}]."
    needed (option ++ "namespace") space ++ needed (option ++ "import_path") path ++
      packageFaults (number + 1) rest

def faults (config : Config) : List Fault :=
  needed "output" config.output ++
  needed "module_path" config.modulePath ++
  packageFaults 0 config.packages ++
  oneOf "policy" config.policy ["multiple", "single"] ++
  atLeastZero "concurrency" config.concurrency ++
  atLeastZero "mock.list_size" config.listSize ++
  needed "registry.root" config.registryRoot ++
  needed "registry.name" config.registryName ++
  (if config.address.isEmpty then needed "server.addr" config.address
  else if isAddress config.address then []
  else [wrong "server.addr" config.address "must be host:port"]) ++
  oneOf "log.level" config.logLevel ["debug", "info", "warn", "error"]

def resolve (sources : ConfigSources) : Except Fault Config := do
  let config ← ofSources sources
  match Fault.join config.faults with
  | some fault => throw fault
  | none => return config

def fileName : String := "smithygen"

def endings : List String :=
  ["json", "toml", "yaml", "yml", "properties", "props", "prop", "hcl", "tfvars", "dotenv",
    "env", "ini"]

def findFile? (tree : FileTree) : Option String :=
  ((endings.map fun ending => fileName ++ "." ++ ending) ++ [fileName]).find? fun path =>
    match tree.status path with
    | .ok (.file _) => true
    | _ => false

def unreadable {α : Type} (place : String) (cause : Fault) : Except Fault α :=
  .error (.config "config" (some place) "cannot read config file" (some cause))

def readFile (tree : FileTree) (path format place : String) : Except Fault ConfigValue := do
  match tree.readFile path with
  | .error fault => unreadable place fault
  | .ok text =>
    match ConfigValue.parse? format text with
    | some value => return value.lower
    | none => unreadable place (.plain ("While parsing config: not a table in " ++ format))

/-- The table of the configuration file: the one that is named, else the one in the working
directory, else nothing. -/
def fileTable (tree : FileTree) (file : String) : Except Fault ConfigValue :=
  if file.isEmpty then
    match findFile? tree with
    | some path => readFile tree path "yaml" "."
    | none => .ok (.table [])
  else
    let format := ((Path.ext file).drop 1).toString
    if endings.contains format then readFile tree file format file
    else unreadable file (.plain ("Unsupported Config Type " ++ Text.quote format))

def load (tree : FileTree) (file : String) (environment : List (String × String))
    (flags : List (String × ConfigValue) := []) : Except Fault Config := do
  let table ← fileTable tree file
  resolve { flags, environment, file := table }

def generateOptions (config : Config) : List Emit.GenerateOption :=
  [.modulePath config.modulePath, .servicePolicy config.policy, .mockSeed config.seed,
    .mockListSize config.listSize, .concurrency config.concurrency, .strict config.strict] ++
  config.packages.map (fun (space, path) => .packageOverride space path) ++
  (if config.namespaces.isEmpty then [] else [.namespaces config.namespaces])

end Config

end ShapeForge
