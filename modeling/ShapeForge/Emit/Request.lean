import ShapeForge.Emit.Generate

/-!
# Generation requests

A request is a list of options, among them exactly one source.  The first option that is not
acceptable fails the request.
-/

namespace ShapeForge.Emit

/-- An option of a request; `none` stands for content that is missing. -/
inductive GenerateOption where
  | file (path : String)
  | text (content : Option String)
  | loaded (loaded : Option LoadedModel)
  | model (model : Option Model)
  | sourceText (text : String)
  | modulePath (path : String)
  | packageOverride (space path : String)
  | packageOverrides (overrides : List (String × String))
  | servicePolicy (policy : String)
  | mockSeed (seed : Nat)
  | mockListSize (size : Int)
  | concurrency (limit : Int)
  | dependency (model : Option Model) (version : Option Version)
  | namespaces (spaces : List String)
  | strict (enabled : Bool)
  | includeInfo (enabled : Bool)

structure GenerateRequest where
  file : Option String := none
  text : Option String := none
  loaded : Option (Option LoadedModel) := none
  model : Option Model := none
  sourceText : Option String := none
  settings : Settings := {}

namespace GenerateRequest

def set (request : GenerateRequest) (change : Settings → Settings) : GenerateRequest :=
  { request with settings := change request.settings }

def refuse {α : Type} (problem : String) : Except Fault α :=
  .error (.plain ("generator: " ++ problem))

def apply (request : GenerateRequest) : GenerateOption → Except Fault GenerateRequest
  | .file path => .ok { request with file := some path }
  | .text none => refuse "bytes cannot be nil"
  | .text (some content) => .ok { request with text := some content }
  | .loaded loaded => .ok { request with loaded := some loaded }
  | .model none => refuse "model cannot be nil"
  | .model (some model) => .ok { request with model := some model }
  | .sourceText text => .ok { request with sourceText := some text }
  | .modulePath path =>
    if path.isEmpty then refuse "module path cannot be empty"
    else .ok (request.set fun settings => { settings with modulePath := path })
  | .packageOverride space path =>
    if space.isEmpty || path.isEmpty then
      refuse "package override needs a namespace and an import path"
    else .ok (request.set fun settings =>
      { settings with overrides := settings.overrides ++ [(space, path)] })
  | .packageOverrides overrides =>
    .ok (request.set fun settings =>
      { settings with overrides := settings.overrides ++ overrides })
  | .servicePolicy text => do
    let policy ← ServicePolicy.parse text
    return request.set fun settings => { settings with policy }
  | .mockSeed seed => .ok (request.set fun settings => { settings with seed })
  | .mockListSize size =>
    if size < 0 then refuse "mock list size cannot be negative"
    else .ok (request.set fun settings => { settings with listSize := size.toNat })
  | .concurrency limit =>
    if limit < 0 then refuse "concurrency cannot be negative" else .ok request
  | .dependency none _ => refuse "dependency model cannot be nil"
  | .dependency (some model) version =>
    .ok (request.set fun settings =>
      { settings with dependencies := settings.dependencies ++ [(model, version)] })
  | .namespaces spaces =>
    .ok (request.set fun settings =>
      { settings with namespaces := settings.namespaces ++ spaces })
  | .strict strict => .ok (request.set fun settings => { settings with strict })
  | .includeInfo includeInfo => .ok (request.set fun settings => { settings with includeInfo })

def applyAll (request : GenerateRequest) : List GenerateOption → Except Fault GenerateRequest
  | [] => .ok request
  | option :: rest => do applyAll (← request.apply option) rest

/-- Check that a request has one source, and that source text goes with a source that is read. -/
def check (request : GenerateRequest) : Except Fault Unit := do
  singleSource "generator" ["WithFilePath", "WithBytes", "WithParsed", "WithModel"]
    [request.file.isSome, request.text.isSome, request.loaded.isSome, request.model.isSome]
  if request.sourceText.isSome && (request.loaded.isSome || request.model.isSome) then
    refuse "WithSourceText requires WithFilePath or WithBytes"

def ofOptions (options : List GenerateOption) : Except Fault GenerateRequest := do
  let request ← applyAll {} options
  request.check
  return request

def load (tree : FileTree) (request : GenerateRequest) : Except Fault LoadedModel :=
  let sources : List ModelSource := match request.file with
    | some path => [.file path]
    | none => [.text request.text]
  (LoadRequest.run tree { sources, sourceText := request.sourceText }).mapError
    (.context "generator: failed to load model")

def source (tree : FileTree) (request : GenerateRequest) : Except Fault LoadedModel :=
  match request.loaded, request.model with
  | some (some loaded), _ => .ok loaded
  | some none, _ => refuse "parse result has no model"
  | none, some model => .ok { sourcePath := "model", version := model.version, model }
  | none, none => request.load tree

end GenerateRequest

def generate (tree : FileTree) (options : List GenerateOption) :
    Except Fault (GenerateResult × Option Fault) := do
  let request ← (GenerateRequest.ofOptions options).mapError
    (.context "generator: invalid options")
  generateLoaded request.settings (← request.source tree)

def generateFile (tree : FileTree) (settings : Settings) (path : String) :
    Except Fault (GenerateResult × Option Fault) := do
  let loaded ← (LoadedModel.ofFile tree path).mapError
    (.context "generator: failed to load model")
  generateLoaded settings loaded

end ShapeForge.Emit
