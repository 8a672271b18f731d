import ShapeForge.Layout.Align
import ShapeForge.Layout.DocText
import ShapeForge.Layout.Imports

/-!
# Formatting code

Generated code is brought into its normal form: unused imports are removed, lines are indented by
the brackets around them, fields, constants and entries of literals are aligned, and the comments
of declarations are normalized.  Text that is not code is refused.
-/

namespace ShapeForge.Layout

structure File where
  /-- The comments in front of the package clause, with blank lines between them. -/
  header : List Line
  package : String
  imports : List Import
  body : List Line

def readImports : List Line → Except SyntaxProblem (List Import × List Line)
  | [] => .error .badImport
  | [] :: rest => readImports rest
  | line :: rest =>
    match line with
    | [token] =>
      if token.isMarked ")" then .ok ([], rest) else more line rest
    | _ => more line rest
where
  more (line : Line) (rest : List Line) : Except SyntaxProblem (List Import × List Line) := do
    let item ← importOf line
    let (items, after) ← readImports rest
    return (item :: items, after)

def skipBlank (lines : List Line) : List Line :=
  lines.dropWhile (·.isEmpty)

def File.ofLines (lines : List Line) : Except SyntaxProblem File := do
  let (header, rest) := lines.span fun line => line.isEmpty || line.isComment
  match rest with
  | [word, name] :: after =>
    if !(word.isWord "package" && name.isName) then throw .badPackageClause
    match skipBlank after with
    | [word, bracket] :: block =>
      if word.isWord "import" && bracket.isMarked "(" then
        let (imports, body) ← readImports block
        return { header, package := name.text, imports, body }
      else return { header, package := name.text, imports := [], body := after }
    | _ => return { header, package := name.text, imports := [], body := after }
  | _ => throw .badPackageClause

inductive Context where
  | fields
  | constants
  | elements
  | other
  deriving DecidableEq, Repr, Inhabited

structure Frame where
  context : Context
  sizes : KeySizes := {}
  deriving Repr, Inhabited

def opened (line : Line) : Context :=
  match line.reverse with
  | last :: before :: _ =>
    if before.isWord "struct" then .fields
    else if before.isWord "const" then .constants
    else if last.isMarked "\x7b" && !last.spaced then .elements
    else .other
  | _ => .other

/-- The tokens up to the first colon outside brackets and those behind it. -/
def splitEntry (depth : Nat) : Line → Option (Line × Line)
  | [] => none
  | token :: rest =>
    if depth == 0 && token.isMarked ":" then some ([token], rest)
    else
      let depth := if token.opens then depth + 1 else if token.closes then depth - 1 else depth
      (splitEntry depth rest).map fun (key, value) => (token :: key, value)

def fieldCells (line : Line) : Except SyntaxProblem (List String) :=
  match line with
  | name :: rest =>
    let (type, tag) := rest.span (·.kind != .raw)
    if !name.isName || type.isEmpty || tag.length > 1 ||
        type.any (fun token => token.kind == .string || token.isMarked ",") then
      .error .badField
    else .ok (name.text :: Line.text type :: tag.map (·.text))
  | [] => .error .badField

def constantCells (line : Line) : List String :=
  match line with
  | name :: rest =>
    let (type, value) := rest.span (!·.isMarked "=")
    [name.text, Line.text type, Line.text value]
  | [] => []

/-- Whether a line carries on behind a raw string with line breaks. -/
def isTall (line : Line) : Bool :=
  line.any fun token => token.text.toList.contains '\n'

structure LayoutState where
  frames : List Frame := []
  part : Nat := 0
  rows : List Row := []

namespace LayoutState

def nextPart (state : LayoutState) : LayoutState :=
  { state with part := state.part + 1 }

def push (state : LayoutState) (outdent : Nat) (cells : List String) : LayoutState :=
  { state with
    rows := { indent := state.frames.length - outdent, cells, part := state.part } :: state.rows }

def updateTop (state : LayoutState) (change : Frame → Frame) : LayoutState :=
  match state.frames with
  | [] => state
  | top :: outer => { state with frames := change top :: outer }

def top (state : LayoutState) : Frame :=
  state.frames.head?.getD { context := .other }

end LayoutState

/-- Add an entry of a literal on one line: aligned with the entry before if their keys are alike. -/
def pushEntry (state : LayoutState) (line : Line) : LayoutState :=
  match splitEntry 0 line with
  | none =>
    let size := (Line.text line).utf8ByteSize
    (state.updateTop fun top => { top with sizes := top.sizes.add size }).push 0
      [Line.text line]
  | some (key, value) =>
    let size := (Line.text key).utf8ByteSize - 1
    let state := if state.top.sizes.joins size then state else state.nextPart
    (state.updateTop fun top => { top with sizes := top.sizes.add size }).push 0
      [Line.text key, Line.text value]

def isCase (line : Line) : Bool :=
  match line.head? with
  | some token => token.isWord "case" || token.isWord "default"
  | none => false

def layLine (state : LayoutState) (line : Line) : Except SyntaxProblem LayoutState :=
  let closes := (line.head?.map Token.closes).getD false
  let balance := line.depth
  if closes then
    -- The line ends the innermost brackets, and an entry over several lines with them.
    match state.frames with
    | [] => .error .unbalanced
    | _ :: outer =>
      let state := { state with frames := outer }.nextPart
      let state := (state.push 0 [Line.text line]).nextPart
      if balance == -1 then
        .ok (state.updateTop fun top => { top with sizes := top.sizes.add 0 })
      else if balance == 0 then
        .ok { state with frames := { context := opened line } :: state.frames }
      else .error .unbalanced
  else if balance == 1 then
    let state := (state.nextPart.push (if isCase line then 1 else 0) [Line.text line]).nextPart
    .ok { state with frames := { context := opened line } :: state.frames }
  else if balance != 0 then .error .unbalanced
  else if line.isComment then
    .ok ((state.nextPart.push 0 [Line.text line]).nextPart)
  else
    let after (state : LayoutState) : LayoutState := if isTall line then state.nextPart else state
    match state.top.context with
    | .fields => do return after (state.push 0 (← fieldCells line))
    | .constants => .ok (after (state.push 0 (constantCells line)))
    | .elements => .ok (pushEntry state line)
    | .other => .ok (state.nextPart.push (if isCase line then 1 else 0) [Line.text line])

def layLines (state : LayoutState) : List Line → Except SyntaxProblem LayoutState
  | [] => .ok state
  | line :: rest => do
    let state ← if line.isEmpty then pure (state.nextPart.push 0 []) else layLine state line
    layLines state rest

def joinEmpty : List Line → List Line
  | [] => []
  | [line] => [line]
  | line :: next :: rest =>
    let opensLiteral := (line.getLast?.map fun token =>
      token.isMarked "\x7b" && !token.spaced).getD false
    let closesIt := (next.head?.map (·.isMarked "\x7d")).getD false
    if opensLiteral && closesIt then joinEmpty ((line ++ next) :: rest)
    else line :: joinEmpty (next :: rest)
termination_by lines => lines.length

def maxBodySize : Nat := 100

/-- The tokens up to the function at the start of a value, and its header and body, if the line is
a function on one line. -/
def splitFunction (line : Line) : Option (Line × Line × Line) :=
  let (before, function) := line.span (!·.isWord "func")
  let (header, body) := function.span (fun token => !(token.isMarked "\x7b" && token.spaced))
  match body, body.getLast? with
  | _ :: inside, some last =>
    if last.isMarked "\x7d" && last.spaced && before.all (!·.opens) then
      some (before, header, inside.dropLast)
    else none
  | _, _ => none

def breakFunction (line : Line) : List Line :=
  match splitFunction line with
  | some (before, header, inside) =>
    if (Line.text header).utf8ByteSize + (Line.text inside).utf8ByteSize > maxBodySize then
      let opening : Token := { kind := .mark, text := "\x7b", spaced := true }
      let closing : Token := { kind := .mark, text := "\x7d", spaced := false }
      [before ++ header ++ [opening], inside, [closing]]
    else [line]
  | none => [line]

def declares (token : Token) : Bool :=
  ["type", "const", "var", "func"].any token.isWord

/-- Whether declarations start with their keywords and have names; the depth is that of the open
brackets. -/
def checkDeclarations (depth : Int) : List Line → Except SyntaxProblem Unit
  | [] => if depth == 0 then .ok () else .error .unbalanced
  | line :: rest =>
    if depth == 0 && !line.isEmpty && !line.isComment then
      match line with
      | first :: second :: _ =>
        if declares first && (second.isName || second.isMarked "(") then
          checkDeclarations (depth + line.depth) rest
        else .error .badDeclaration
      | _ => .error .badDeclaration
    else checkDeclarations (depth + line.depth) rest

def isDeclarationComment (text : String) : Bool :=
  text.startsWith "//"

/-- Replace comments that stand directly above a declaration by their normal form. -/
def formatComments (comments : List String) : List String → List String
  | [] => comments.reverse
  | text :: rest =>
    if isDeclarationComment text then formatComments (text :: comments) rest
    else
      let comments := if text.isEmpty then comments.reverse else DocText.format comments.reverse
      comments ++ text :: formatComments [] rest

/-- Texts without blanks at the end, and with at most one blank text in a row. -/
def squeeze : List String → List String
  | [] => []
  | "" :: "" :: rest => squeeze ("" :: rest)
  | [""] => []
  | text :: rest => text :: squeeze rest

def trimEnd (text : String) : String :=
  String.ofList (text.toList.reverse.dropWhile Text.isBlank).reverse

def bodyLines (body : List Line) : Except SyntaxProblem (List String) := do
  checkDeclarations 0 body
  let state ← layLines {} ((joinEmpty body).flatMap breakFunction)
  return rowTexts state.rows.reverse

def format (source : String) : Except SyntaxProblem String := do
  let file ← File.ofLines (← tokenize source)
  let body ← bodyLines file.body
  let header := file.header.map Line.text
  let imports := importLines file.imports (references file.body)
  let lines := (header ++ ["package " ++ file.package]).map trimEnd ++
    (if imports.isEmpty then [] else "" :: imports) ++
    (if body.all (·.isEmpty) then [] else "" :: body.map trimEnd)
  let lines := squeeze lines
  let lines := formatComments [] (formatComments [] lines)
  return "".intercalate (lines.map (· ++ "\n"))

end ShapeForge.Layout
