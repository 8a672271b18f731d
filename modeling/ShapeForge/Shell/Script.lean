import ShapeForge.Text.Blank

/-!
# Scripts

A script is a list of pipelines, each run on a condition on the one before it.  The commands of a
pipeline are words with redirections of their streams.
-/

namespace ShapeForge.Shell

inductive Piece where
  | word (text : String)
  | operator (text : String)
  deriving DecidableEq, Repr

def operators : List String :=
  ["&&", "||", ">>", ">&", "|", ";", "\n", ">", "<"]

def operator? (chars : List Char) : Option String :=
  operators.find? fun operator => operator.toList.isPrefixOf chars

/-- A word and the characters behind it; quotes are removed, and nothing is expanded. -/
def readWord (word : List Char) : Nat → List Char → List Char × List Char
  | 0, chars => (word, chars)
  | _ + 1, [] => (word, [])
  | fuel + 1, c :: rest =>
    if c == ' ' || c == '\t' || (operator? (c :: rest)).isSome then (word, c :: rest)
    else if c == '\'' then
      let (inside, after) := rest.span (· != '\'')
      readWord (inside.reverse ++ word) fuel (after.drop 1)
    else if c == '"' then
      let (inside, after) := rest.span (· != '"')
      readWord (inside.reverse ++ word) fuel (after.drop 1)
    else if c == '\\' then
      match rest with
      | [] => (word, [])
      | next :: after => readWord (next :: word) fuel after
    else readWord (c :: word) fuel rest

/-- The pieces of a script.  A number right in front of a redirection belongs to it. -/
def readPieces : Nat → List Char → List Piece
  | 0, _ => []
  | _ + 1, [] => []
  | fuel + 1, c :: rest =>
    if c == ' ' || c == '\t' then readPieces fuel rest
    else match operator? (c :: rest) with
      | some operator =>
        .operator operator :: readPieces fuel ((c :: rest).drop operator.length)
      | none =>
        let (word, after) := readWord [] (rest.length + 1) (c :: rest)
        if word.all Char.isDigit && after.head? == some '>' then
          match operator? after with
          | some operator =>
            .operator (String.ofList word.reverse ++ operator) ::
              readPieces fuel (after.drop operator.length)
          | none => .word (String.ofList word.reverse) :: readPieces fuel after
        else .word (String.ofList word.reverse) :: readPieces fuel after

inductive Redirection where
  | input (path : String)
  | file (errors append : Bool) (path : String)
  /-- Output and errors go to one stream: that of errors, or that of output. -/
  | toErrors
  | toOutput
  deriving DecidableEq, Repr

structure Simple where
  words : List String := []
  redirections : List Redirection := []
  deriving Repr, Inhabited

def redirection? (operator target : String) : Option Redirection :=
  match operator with
  | "<" => some (.input target)
  | ">" => some (.file false false target)
  | "1>" => some (.file false false target)
  | ">>" => some (.file false true target)
  | "1>>" => some (.file false true target)
  | "2>" => some (.file true false target)
  | "2>>" => some (.file true true target)
  | ">&" => if target == "2" then some .toErrors else none
  | "1>&" => if target == "2" then some .toErrors else none
  | "2>&" => if target == "1" then some .toOutput else none
  | _ => none

def Simple.ofPieces : List Piece → Simple
  | [] => {}
  | .operator operator :: .word target :: rest =>
    let command := ofPieces rest
    match redirection? operator target with
    | some redirection =>
      { command with redirections := redirection :: command.redirections }
    | none => command
  | .operator _ :: rest => ofPieces rest
  | .word word :: rest =>
    let command := ofPieces rest
    { command with words := word :: command.words }

inductive Condition where
  | always
  | success
  | failure
  deriving DecidableEq, Repr

def condition? : Piece → Option Condition
  | .operator ";" => some .always
  | .operator "\n" => some .always
  | .operator "&&" => some .success
  | .operator "||" => some .failure
  | _ => none

structure Stage where
  condition : Condition
  commands : List Simple
  deriving Repr

def pipelineOf (pieces : List Piece) : List Simple :=
  (Text.splitWhere (· == .operator "|") pieces).map Simple.ofPieces

/-- The stages of a script; the pieces of the current one stand in reverse. -/
def stagesOf (condition : Condition) (current : List Piece) : List Piece → List Stage
  | [] => if current.isEmpty then [] else [⟨condition, pipelineOf current.reverse⟩]
  | piece :: rest =>
    match condition? piece with
    | some next =>
      if current.isEmpty then stagesOf next [] rest
      else ⟨condition, pipelineOf current.reverse⟩ :: stagesOf next [] rest
    | none => stagesOf condition (piece :: current) rest

def readScript (text : String) : List Stage :=
  stagesOf .always [] (readPieces (text.length + 1) text.toList)

end ShapeForge.Shell
