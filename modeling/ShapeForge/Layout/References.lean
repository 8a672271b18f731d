import ShapeForge.Layout.Token

/-!
# References to packages

A name in front of a point and an exported name refers to a package, unless a variable of that
name is in scope.  Types of parameters are outside the scope of the parameters, and so is the
right side of a definition outside the scope of what it defines.
-/

namespace ShapeForge.Layout

structure ScopeState where
  blocks : List (List String) := []
  entering : List String := []
  /-- Names that are defined once the brackets are down to a depth again. -/
  defining : Option (Nat × List String) := none
  depth : Nat := 0
  found : List String := []

namespace ScopeState

def declares (state : ScopeState) (name : String) : Bool :=
  state.blocks.any (·.contains name)

def declare (state : ScopeState) (names : List String) : ScopeState :=
  match state.blocks with
  | [] => state
  | block :: outer => { state with blocks := (names ++ block) :: outer }

def refer (state : ScopeState) (name selected : String) : ScopeState :=
  let exported := (selected.toList.head?.map Text.isUpper).getD false
  if exported && !state.declares name && !state.found.contains name then
    { state with found := name :: state.found }
  else state

/-- End a statement: what it defines comes into scope. -/
def finish (state : ScopeState) : ScopeState :=
  match state.defining with
  | some (depth, names) =>
    if state.depth ≤ depth then { state.declare names with defining := none } else state
  | none => state

/-- End the first clause of a conditional statement: what it defines is in scope in its block. -/
def enter (state : ScopeState) : ScopeState :=
  match state.defining with
  | some (_, names) => { state with defining := none, entering := names ++ state.entering }
  | none => state

def bracket (state : ScopeState) (token : Token) : ScopeState :=
  if token.isMarked "\x7b" then
    { state with
      depth := state.depth + 1
      blocks := state.entering :: state.blocks
      entering := [] }
  else if token.isMarked "\x7d" then
    { state with depth := state.depth - 1, blocks := state.blocks.tail }
  else if token.opens then { state with depth := state.depth + 1 }
  else if token.closes then { state with depth := state.depth - 1 }
  else state

end ScopeState

def definedNames (line : Line) : List String :=
  let (left, right) := line.span (!·.isMarked ":=")
  if right.isEmpty then
    match line with
    | first :: name :: _ => if first.isWord "var" then [name.text] else []
    | _ => []
  else (left.filter Token.isName).map (·.text)

/-- The names of parameters: names that stand behind an opening bracket or a comma and are
followed by a type. -/
def parameterNames : Line → List String
  | before :: name :: next :: rest =>
    let others := parameterNames (name :: next :: rest)
    if (before.isMarked "(" || before.isMarked ",") && name.isName && next.spaced then
      name.text :: others
    else others
  | _ => []

/-- The state after the tokens of a line; those before are kept in reverse. -/
def scanTokens (state : ScopeState) (before : List Token) : Line → ScopeState
  | [] => state
  | token :: rest =>
    let state := state.bracket token
    let state := if token.isMarked ";" then state.enter else state
    let state := match before with
      | point :: name :: outer =>
        let selects := (outer.head?.map (·.isMarked ".")).getD false
        if point.isMarked "." && name.isName && !selects then
          state.refer name.text token.text
        else state
      | _ => state
    scanTokens state (token :: before) rest

def scanLine (state : ScopeState) (line : Line) : ScopeState :=
  let isFunction := state.depth == 0 && (line.head?.map (·.isWord "func")).getD false
  let state :=
    if isFunction then { state with entering := parameterNames line }
    else match definedNames line with
      | [] => state
      | names =>
        if state.defining.isNone then { state with defining := some (state.depth, names) }
        else state
  (scanTokens state [] line).finish

def references (lines : List Line) : List String :=
  (lines.foldl scanLine {}).found

end ShapeForge.Layout
