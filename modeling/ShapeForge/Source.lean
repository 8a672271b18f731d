import ShapeForge.Files.Tree
import ShapeForge.Model.Load
import ShapeForge.Model.References
import ShapeForge.Use

/-!
# Loading models

A model is loaded from one place: a file, a stream or a text.  The result carries the model with
the name and format of its source, and the dependencies that accompanying source text declares.
-/

namespace ShapeForge

inductive SourceFormat where
  | yaml
  | json
  deriving DecidableEq, Repr, Inhabited

namespace SourceFormat

def name : SourceFormat → String
  | .yaml => "yaml"
  | .json => "json"

/-- The format that the ending of a path tells, else the start of the text. -/
def detect (path text : String) : SourceFormat :=
  let ending := Text.lower (Path.ext path)
  if ending == ".json" then .json
  else if ending == ".yaml" || ending == ".yml" then .yaml
  else match text.toList.dropWhile Text.isBlank with
    | '\x7b' :: _ => .json
    | '[' :: _ => .json
    | _ => .yaml

end SourceFormat

structure LoadedModel where
  sourcePath : String := ""
  format : Option SourceFormat := none
  version : String := ""
  model : Model := {}
  dependencies : Dependencies := {}
  size : Nat := 0
  deriving Repr, Inhabited

/-- Where a model is loaded from; `none` stands for content that is missing. -/
inductive ModelSource where
  | file (path : String)
  /-- A stream gives its text, or fails while it is read. -/
  | stream (content : Option (Except String String))
  | text (content : Option String)

def singleSource (package : String) (names : List String) (set : List Bool) :
    Except Fault Unit :=
  let joined := match names.reverse with
    | [] => ""
    | [only] => only
    | last :: before => ", ".intercalate before.reverse ++ " or " ++ last
  match set.countP id with
  | 0 =>
    .error (.config "input" none
      (package ++ ": must specify an input source (use " ++ joined ++ ")") none)
  | 1 => .ok ()
  | _ =>
    .error (.config "input" none (package ++ ": must specify exactly one input source") none)

structure LoadRequest where
  sources : List ModelSource
  checkReferences : Bool := false
  /-- Source text that declares dependencies, given or in a file. -/
  sourceText : Option String := none
  sourceFile : Option String := none
  /-- A name to report in place of the source's own. -/
  sourceName : Option String := none

namespace LoadedModel

def ofText (text path : String) (checkReferences : Bool := false) :
    Except Fault LoadedModel := do
  let root ← (Document.read text).mapError fun error =>
    .parse path 0 0 "invalid document" (some (.plain error.message))
  let model ← Load.model path root
  if checkReferences then model.check
  return { sourcePath := path, format := some (.detect path text), version := model.version,
           model, size := text.utf8ByteSize }

def named (loaded : LoadedModel) (lead : String) : LoadedModel :=
  { loaded with sourcePath := lead ++ ((loaded.format.map (·.name)).getD "") }

def ofBytes (text : String) (checkReferences : Bool := false) : Except Fault LoadedModel := do
  let loaded ← ofText text "" checkReferences
  return loaded.named "ParseBytes."

def ofFile (tree : FileTree) (path : String) (checkReferences : Bool := false) :
    Except Fault LoadedModel := do
  let text ← (tree.readFile path).mapError (.context "parser: failed to read file")
  ofText text path checkReferences

def ofStream (content : Except String String) (checkReferences : Bool := false) :
    Except Fault LoadedModel := do
  match content with
  | .error reason => throw (.context "parser: failed to read input" (.plain reason))
  | .ok text =>
    let loaded ← ofText text "" checkReferences
    return loaded.named "ParseReader."

end LoadedModel

namespace ModelSource

def check : ModelSource → Except Fault Unit
  | .stream none => .error (.plain "parser: reader cannot be nil")
  | .text none => .error (.plain "parser: bytes cannot be nil")
  | _ => .ok ()

def isFile : ModelSource → Bool
  | .file _ => true
  | _ => false

def isStream : ModelSource → Bool
  | .stream _ => true
  | _ => false

def isText : ModelSource → Bool
  | .text _ => true
  | _ => false

def load (tree : FileTree) (checkReferences : Bool) : ModelSource → Except Fault LoadedModel
  | .file path => LoadedModel.ofFile tree path checkReferences
  | .stream content => LoadedModel.ofStream (content.getD (.ok "")) checkReferences
  | .text content => LoadedModel.ofBytes (content.getD "") checkReferences

end ModelSource

namespace LoadRequest

/-- The source of a request, which must be the only one. -/
def source (request : LoadRequest) : Except Fault ModelSource := do
  request.sources.forM ModelSource.check
  singleSource "parser" ["WithFilePath", "WithReader", "WithBytes"]
    [request.sources.any ModelSource.isFile, request.sources.any ModelSource.isStream,
      request.sources.any ModelSource.isText]
  if request.sourceText.isSome && request.sourceFile.isSome then
    throw (.plain "parser: use WithSourceText or WithSourceFile, not both")
  match request.sources.getLast? with
  | some source => return source
  | none => throw (.plain "")

def sourceDeclarations (tree : FileTree) (request : LoadRequest) :
    Except Fault (Option String) := do
  match request.sourceFile with
  | none => return request.sourceText
  | some path =>
    let text ← (tree.readFile path).mapError (.context "parser: failed to read source file")
    return some text

def run (tree : FileTree) (request : LoadRequest) : Except Fault LoadedModel := do
  let source ← request.source.mapError (.context "parser: invalid options")
  let loaded ← source.load tree request.checkReferences
  let declared ← request.sourceDeclarations tree
  let dependencies := match declared with
    | some text => Dependencies.ofUses (Use.ofSource text) loaded.model.namespaces
    | none => {}
  return { loaded with dependencies, sourcePath := request.sourceName.getD loaded.sourcePath }

end LoadRequest

end ShapeForge
