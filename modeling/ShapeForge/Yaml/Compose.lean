import ShapeForge.Yaml.Core
import ShapeForge.Yaml.Node
import ShapeForge.Yaml.Scan

/-!
# From tokens to a document

`Node.ofText?` reads the first document of a text.  A node may be named by an anchor and referred
to later by an alias; the alias then carries the node.  Every reader below takes a budget that
bounds the depth of its recursion by the number of tokens.
-/

namespace ShapeForge.Yaml

/-- What the readers keep: the unread tokens, the named nodes, and the handles of tags.  A node
is entered with its name before its content is read, and has no value until then. -/
structure Composer where
  unread : List Token
  anchors : List (String × Nat × Option Node) := []
  entered : Nat := 0
  handles : List (String × String) := [("!", "!"), ("!!", "tag:yaml.org,2002:")]

abbrev Compose := StateT Composer Scan

namespace Compose

def refuse {α : Type} (mark : Mark) (problem : String) : Compose α :=
  throw { mark, problem }

def peek : Compose Token := do
  match (← get).unread with
  | token :: _ =>
    if token.kind == .broken then refuse token.start "unreadable text" else return token
  | [] => refuse {} "unexpected end of stream"

def skip : Compose Unit :=
  modify fun state => { state with unread := state.unread.drop 1 }

def positionOf (mark : Mark) : Position :=
  { line := mark.line + 1, column := mark.column + 1 }

def emptyScalar (mark : Mark) : Node :=
  .scalar (positionOf mark) CoreTag.null.name ""

def shortTag (tag : String) : String :=
  let long := "tag:yaml.org,2002:"
  if tag.startsWith long then "!!" ++ (tag.drop long.length).toString else tag

def resolveTag (mark : Mark) (handle suffix : String) : Compose String := do
  if handle.isEmpty then return suffix
  match (← get).handles.find? (·.1 == handle) with
  | some (_, expansion) => return expansion ++ suffix
  | none => refuse mark "found undefined tag handle"

structure Properties where
  anchor : Option String := none
  tag : Option String := none
  start : Mark
  given : Bool := false

def properties : Compose Properties := do
  let token ← peek
  let start := token.start
  match token.kind with
  | .anchor name =>
    skip
    let next ← peek
    match next.kind with
    | .tag handle suffix =>
      skip
      return { anchor := some name, tag := some (← resolveTag start handle suffix), start,
               given := true }
    | _ => return { anchor := some name, start, given := true }
  | .tag handle suffix =>
    skip
    let next ← peek
    match next.kind with
    | .anchor name =>
      skip
      return { anchor := some name, tag := some (← resolveTag start handle suffix), start,
               given := true }
    | _ => return { tag := some (← resolveTag start handle suffix), start, given := true }
  | _ => return { start }

/-- The tag of a scalar: the given one, else a string if it was quoted, else by its spelling. -/
def scalarTag (tag : Option String) (style : ScalarStyle) (text : String) : String :=
  match tag.filter fun tag => tag != "" && tag != "!" with
  | some tag => shortTag tag
  | none =>
    match style with
    | .quoted => CoreTag.str.name
    | .plain => if text == "<<" then CoreTag.merge.name else (coreTag text).name

/-- Enter a name whose node is about to be read. -/
def enter : Option String → Compose (Option Nat)
  | none => return none
  | some name => do
    let state ← get
    set { state with
      anchors := (name, state.entered, none) :: state.anchors, entered := state.entered + 1 }
    return some state.entered

def complete (entry : Option Nat) (node : Node) : Compose Node := do
  match entry with
  | none => return node
  | some serial =>
    modify fun state => { state with
      anchors := state.anchors.map fun (name, other, old) =>
        (name, other, if other == serial then some node else old) }
    return node

def resolveAlias (mark : Mark) (name : String) : Compose Node := do
  match (← get).anchors.find? (·.1 == name) with
  | some (_, _, some node) => return .alias (positionOf mark) node
  | _ => refuse mark "unknown anchor"

mutual

/-- A node.  Block collections are admitted only where `block` says so, and a sequence whose
dashes stand at the column of its key only where `indentless` does. -/
def node (block indentless : Bool) : Nat → Compose Node
  | 0 => refuse {} "exceeded max depth"
  | fuel + 1 => do
    let token ← peek
    match token.kind with
    | .alias name =>
      skip
      resolveAlias token.start name
    | _ =>
      let given ← properties
      let entry ← enter given.anchor
      let token ← peek
      let position := positionOf given.start
      match token.kind with
      | .blockEntry =>
        if indentless then
          complete entry (.sequence position (← indentlessItems fuel []))
        else content given entry token
      | .scalar text style =>
        skip
        complete entry (.scalar position (scalarTag given.tag style text) text)
      | .flowSequenceStart =>
        skip
        complete entry (.sequence position (← flowItems true fuel []))
      | .flowMappingStart =>
        skip
        complete entry (.mapping position (← flowPairs true fuel []))
      | .blockSequenceStart =>
        if block then
          skip
          complete entry (.sequence position (← blockItems fuel []))
        else content given entry token
      | .blockMappingStart =>
        if block then
          skip
          complete entry (.mapping position (← blockPairs fuel []))
        else content given entry token
      | _ => content given entry token

/-- A node without content: allowed behind an anchor or a tag. -/
def content (given : Properties) (entry : Option Nat) (token : Token) : Compose Node := do
  if given.given then
    complete entry (.scalar (positionOf given.start) (scalarTag given.tag .plain "") "")
  else refuse token.start "did not find expected node content"

def blockItems : Nat → List Node → Compose (List Node)
  | 0, _ => refuse {} "exceeded max depth"
  | fuel + 1, items => do
    let token ← peek
    match token.kind with
    | .blockEntry =>
      skip
      let next ← peek
      match next.kind with
      | .blockEntry | .blockEnd => blockItems fuel (emptyScalar token.stop :: items)
      | _ =>
        let item ← node true false fuel
        blockItems fuel (item :: items)
    | .blockEnd =>
      skip
      return items.reverse
    | _ => refuse token.start "did not find expected '-' indicator"

/-- The items of a sequence whose dashes stand at the column of its key. -/
def indentlessItems : Nat → List Node → Compose (List Node)
  | 0, _ => refuse {} "exceeded max depth"
  | fuel + 1, items => do
    let token ← peek
    match token.kind with
    | .blockEntry =>
      skip
      let next ← peek
      match next.kind with
      | .blockEntry | .key | .value | .blockEnd =>
        indentlessItems fuel (emptyScalar token.stop :: items)
      | _ =>
        let item ← node true false fuel
        indentlessItems fuel (item :: items)
    | _ => return items.reverse

def blockPairs : Nat → List Node → Compose (List Node)
  | 0, _ => refuse {} "exceeded max depth"
  | fuel + 1, pairs => do
    let token ← peek
    match token.kind with
    | .key =>
      skip
      let next ← peek
      let key ← match next.kind with
        | .key | .value | .blockEnd => pure (emptyScalar token.stop)
        | _ => node true true fuel
      let value ← blockValue fuel
      blockPairs fuel (value :: key :: pairs)
    | .blockEnd =>
      skip
      return pairs.reverse
    | _ => refuse token.start "did not find expected key"

def blockValue : Nat → Compose Node
  | 0 => refuse {} "exceeded max depth"
  | fuel + 1 => do
    let token ← peek
    match token.kind with
    | .value =>
      skip
      let next ← peek
      match next.kind with
      | .key | .value | .blockEnd => return emptyScalar token.stop
      | _ => node true true fuel
    | _ => return emptyScalar token.start

def flowItems (first : Bool) : Nat → List Node → Compose (List Node)
  | 0, _ => refuse {} "exceeded max depth"
  | fuel + 1, items => do
    let token ← peek
    if token.kind == .flowSequenceEnd then
      skip
      return items.reverse
    let token ←
      if first then pure token
      else if token.kind == .flowEntry then do
        skip
        peek
      else refuse token.start "did not find expected ',' or ']'"
    match token.kind with
    | .key =>
      skip
      let pair ← flowPair token.start fuel
      flowItems false fuel (pair :: items)
    | .flowSequenceEnd =>
      skip
      return items.reverse
    | _ =>
      let item ← node false false fuel
      flowItems false fuel (item :: items)

/-- A single pair among the items of a sequence, behind the indicator of its key. -/
def flowPair (start : Mark) : Nat → Compose Node
  | 0 => refuse {} "exceeded max depth"
  | fuel + 1 => do
    let token ← peek
    let key ← match token.kind with
      | .value | .flowEntry | .flowSequenceEnd => do
        skip
        pure (emptyScalar token.stop)
      | _ => node false false fuel
    let token ← peek
    let value ←
      if token.kind == .value then do
        skip
        let next ← peek
        match next.kind with
        | .flowEntry | .flowSequenceEnd => pure (emptyScalar next.start)
        | _ => node false false fuel
      else pure (emptyScalar token.start)
    return .mapping (positionOf start) [key, value]

def flowPairs (first : Bool) : Nat → List Node → Compose (List Node)
  | 0, _ => refuse {} "exceeded max depth"
  | fuel + 1, pairs => do
    let token ← peek
    if token.kind == .flowMappingEnd then
      skip
      return pairs.reverse
    let token ←
      if first then pure token
      else if token.kind == .flowEntry then do
        skip
        peek
      else refuse token.start "did not find expected ',' or '\x7d'"
    match token.kind with
    | .key =>
      skip
      let next ← peek
      let key ← match next.kind with
        | .value | .flowEntry | .flowMappingEnd => pure (emptyScalar next.start)
        | _ => node false false fuel
      let value ← flowValue fuel
      flowPairs false fuel (value :: key :: pairs)
    | .flowMappingEnd =>
      skip
      return pairs.reverse
    | _ =>
      let key ← node false false fuel
      let next ← peek
      flowPairs false fuel (emptyScalar next.start :: key :: pairs)

def flowValue : Nat → Compose Node
  | 0 => refuse {} "exceeded max depth"
  | fuel + 1 => do
    let token ← peek
    if token.kind == .value then
      skip
      let next ← peek
      match next.kind with
      | .flowEntry | .flowMappingEnd => return emptyScalar next.start
      | _ => node false false fuel
    else return emptyScalar token.start

end

def directives : Nat → Bool → List String → Compose Unit
  | 0, _, _ => refuse {} "exceeded max depth"
  | fuel + 1, versioned, declared => do
    let token ← peek
    match token.kind with
    | .versionDirective major minor =>
      if versioned then refuse token.start "found duplicate %YAML directive"
      else if major != 1 || minor != 1 then
        refuse token.start "found incompatible YAML document"
      else
        skip
        directives fuel true declared
    | .tagDirective handle expansion =>
      if declared.contains handle then refuse token.start "found duplicate %TAG directive"
      else
        skip
        modify fun state => { state with handles := (handle, expansion) :: state.handles }
        directives fuel versioned (handle :: declared)
    | _ => return

def startsExplicitly : TokenKind → Bool
  | .versionDirective _ _ | .tagDirective _ _ | .documentStart => true
  | _ => false

def endsDocument : TokenKind → Bool
  | .versionDirective _ _ | .tagDirective _ _ | .documentStart | .documentEnd | .streamEnd => true
  | _ => false

def document : Compose Node := do
  let budget := 4 * (← get).unread.length + 4
  let token ← peek
  if token.kind == .streamEnd then return .unknown {} 0
  let start := positionOf token.start
  let root ←
    if startsExplicitly token.kind then do
      directives budget false []
      let mark ← peek
      if mark.kind != .documentStart then
        refuse mark.start "did not find expected <document start>"
      else
        skip
        let next ← peek
        if endsDocument next.kind then pure (emptyScalar next.start)
        else node true false budget
    else node true false budget
  let _ ← peek
  return .document start [root]

end Compose

namespace Node

/-- The first document of a text.  A text without document has a node of kind zero. -/
def ofText? (text : String) : Except SyntaxError Node :=
  (Compose.document.run { unread := tokens text }).map (·.1)

end Node

end ShapeForge.Yaml
