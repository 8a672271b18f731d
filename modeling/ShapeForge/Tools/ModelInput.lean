import ShapeForge.Digest
import ShapeForge.Source
import ShapeForge.Tools.Settings

/-!
# Models for the tools

A tool gets its model as a file or as text.  Loaded models are kept in a cache: a file under its
place and the time of its last change, a text under its digest.
-/

namespace ShapeForge.Tools

/-- Where the model of a call is; an empty text is absent. -/
structure ModelInput where
  file : String := ""
  content : String := ""
  deriving Repr, DecidableEq, Inhabited

/-- What a loaded model is kept under. -/
inductive ModelKey where
  | file (place : List String) (stamp : Nat)
  | content (digest : String)
  deriving Repr, DecidableEq

namespace ModelKey

def text : ModelKey → String
  | .file place stamp => "file:" ++ Path.ofElements false place ++ ":" ++ toString stamp
  | .content digest => "content:" ++ digest

end ModelKey

abbrev ModelCache := Cache ModelKey LoadedModel

namespace ModelInput

/-- What a model is kept under; a file that is not there has no key.  The file is the one at the
shortest path for the same place. -/
def key? (tree : FileTree) (input : ModelInput) : Option ModelKey :=
  if !input.file.isEmpty then
    (tree.stamp? (Path.clean input.file)).map (.file (Path.place input.file))
  else if !input.content.isEmpty then some (.content (Digest.sha256 input.content))
  else none

def check (settings : Settings) (input : ModelInput) : Except Fault Unit := do
  if input.file.isEmpty == input.content.isEmpty then
    throw (.plain "exactly one of file or content must be provided")
  let size := input.content.utf8ByteSize
  if settings.inlineLimit < size then
    throw (.plain ("inline content size " ++ toString size ++ " bytes exceeds maximum " ++
      toString settings.inlineLimit ++ " bytes; use file input instead, or set " ++
      "SMITHYGEN_MCP_MAX_INLINE_SIZE to increase"))

def load (tree : FileTree) (input : ModelInput) : Except Fault LoadedModel :=
  if input.file.isEmpty then LoadedModel.ofBytes input.content
  else LoadedModel.ofFile tree input.file

def life (settings : Settings) (input : ModelInput) : Duration :=
  if input.file.isEmpty then settings.contentLife else settings.fileLife

def loadInto (tree : FileTree) (input : ModelInput) (cache : ModelCache) (key : ModelKey)
    (deadline : Int) : Except Fault LoadedModel × ModelCache :=
  match input.load tree with
  | .ok loaded => (.ok loaded, cache.put key loaded deadline)
  | .error fault => (.error fault, cache)

/-- The model of a call, from the cache if it is there. -/
def resolve (settings : Settings) (tree : FileTree) (now : Int) (cache : ModelCache)
    (input : ModelInput) : Except Fault LoadedModel × ModelCache :=
  match input.check settings with
  | .error fault => (.error fault, cache)
  | .ok _ =>
    match if settings.cacheEnabled then input.key? tree else none with
    | none => (input.load tree, cache)
    | some key =>
      match cache.get now key with
      | (some loaded, cache) => (.ok loaded, cache)
      | (none, cache) =>
        loadInto tree input cache key (now + (input.life settings).nanoseconds)

end ModelInput

end ShapeForge.Tools
