import ShapeForge.Config.Value
import ShapeForge.Text.Blank
import ShapeForge.Text.Cells

/-!
# Flags

A command line mixes flags and arguments.  A flag has a name behind two hyphens, and may have a
letter behind one; letters of flags without value can be put together.  The value of a flag follows
behind an equals sign or as the next word.  Two hyphens alone end the flags.
-/

namespace ShapeForge.Cli

inductive FlagType where
  | text
  /-- A truth value; the flag alone means true. -/
  | truth
  | whole
  | natural
  /-- Texts between commas; every use of the flag adds some. -/
  | texts
  deriving Repr, DecidableEq

structure Flag where
  name : String
  letter : Option Char := none
  type : FlagType := .text
  usage : String
  /-- The value without the flag, where help shows it. -/
  default : String := ""
  deriving Repr, DecidableEq

inductive FlagValue where
  | text (value : String)
  | truth (value : Bool)
  | whole (value : Int)
  | natural (value : Nat)
  | texts (values : List String)
  deriving Repr, DecidableEq

inductive FlagProblem where
  | syntaxProblem (word : String)
  | unknown (name : String)
  | unknownLetter (letter : Char) (letters : String)
  | valueMissing (name : String)
  | letterValueMissing (letter : Char) (letters : String)
  | valueProblem (flag : Flag) (value problem : String)
  deriving Repr

namespace Flag

def implied? (flag : Flag) : Option String :=
  if flag.type == .truth then some "true" else none

/-- How messages call a flag. -/
def label (flag : Flag) : String :=
  match flag.letter with
  | some letter => "-" ++ letter.toString ++ ", --" ++ flag.name
  | none => "--" ++ flag.name

def named? (flags : List Flag) (name : String) : Option Flag :=
  flags.find? (·.name == name)

def lettered? (flags : List Flag) (letter : Char) : Option Flag :=
  flags.find? (·.letter == some letter)

def value (flag : Flag) (text : String) : Except String FlagValue :=
  match flag.type with
  | .text => .ok (.text text)
  | .truth =>
    match ConfigValue.truth? text with
    | some value => .ok (.truth value)
    | none => .error (Numeral.Problem.malformed.message "ParseBool" text)
  | .whole => (Numeral.signedWord text).map .whole
  | .natural => (Numeral.word text).map .natural
  | .texts => ((Text.cells text).mapError (·.message)).map .texts

end Flag

namespace FlagProblem

def message : FlagProblem → String
  | .syntaxProblem word => "bad flag syntax: " ++ word
  | .unknown name => "unknown flag: --" ++ name
  | .unknownLetter letter letters =>
    "unknown shorthand flag: '" ++ letter.toString ++ "' in -" ++ letters
  | .valueMissing name => "flag needs an argument: --" ++ name
  | .letterValueMissing letter letters =>
    "flag needs an argument: '" ++ letter.toString ++ "' in -" ++ letters
  | .valueProblem flag value problem =>
    "invalid argument " ++ Text.quote value ++ " for " ++ Text.quote flag.label ++ " flag: " ++
      problem

end FlagProblem

structure Line where
  /-- The values of flags in the order in which they were given. -/
  values : List (String × FlagValue) := []
  arguments : List String := []
  deriving Repr, DecidableEq

namespace Line

def value? (line : Line) (name : String) : Option FlagValue :=
  match (line.values.filter (·.1 == name)).map (·.2) with
  | [] => none
  | first :: rest => some (rest.foldl join first)
where
  join (before latest : FlagValue) : FlagValue :=
    match before, latest with
    | .texts some_, .texts more => .texts (some_ ++ more)
    | _, _ => latest

def text (line : Line) (name : String) (default : String := "") : String :=
  match line.value? name with
  | some (.text value) => value
  | _ => default

def isSet (line : Line) (name : String) : Bool :=
  line.value? name == some (.truth true)

def set (line : Line) (flag : Flag) (text : String) : Except FlagProblem Line :=
  match flag.value text with
  | .ok value => .ok { line with values := line.values ++ [(flag.name, value)] }
  | .error problem => .error (.valueProblem flag text problem)

end Line

inductive FlagWord where
  | settled (values : List (Flag × String))
  /-- The last flag takes the next word; the problem if there is none. -/
  | waiting (values : List (Flag × String)) (flag : Flag) (problem : FlagProblem)

namespace FlagWord

def add (flag : Flag) (text : String) : FlagWord → FlagWord
  | .settled values => .settled ((flag, text) :: values)
  | .waiting values last problem => .waiting ((flag, text) :: values) last problem

def ofName (flags : List Flag) (word : String) : Except FlagProblem FlagWord :=
  let (name, value) := match Text.cutAt '=' word with
    | some (name, value) => (name, some value)
    | none => (word, none)
  if word.startsWith "-" || name.isEmpty then .error (.syntaxProblem ("--" ++ word))
  else match Flag.named? flags name with
    | none => .error (.unknown name)
    | some flag =>
      match value.or flag.implied? with
      | some text => .ok (.settled [(flag, text)])
      | none => .ok (.waiting [] flag (.valueMissing name))

def ofLetters (flags : List Flag) : List Char → Except FlagProblem FlagWord
  | [] => .ok (.settled [])
  | letter :: rest =>
    let letters := String.ofList (letter :: rest)
    match Flag.lettered? flags letter with
    | none => .error (.unknownLetter letter letters)
    | some flag =>
      match rest, flag.implied? with
      | '=' :: first :: more, _ => .ok (.settled [(flag, String.ofList (first :: more))])
      | _, some text => (ofLetters flags rest).map (add flag text)
      | [], none => .ok (.waiting [] flag (.letterValueMissing letter letters))
      | first :: more, none => .ok (.settled [(flag, String.ofList (first :: more))])

/-- Read a word; one that is no flag is none. -/
def read? (flags : List Flag) (word : String) : Option (Except FlagProblem FlagWord) :=
  match word.toList with
  | '-' :: '-' :: name => some (ofName flags (String.ofList name))
  | '-' :: letter :: rest => some (ofLetters flags (letter :: rest))
  | _ => none

end FlagWord

namespace Line

def setAll (line : Line) : List (Flag × String) → Except FlagProblem Line
  | [] => .ok line
  | (flag, text) :: rest => do setAll (← line.set flag text) rest

def readFrom (flags : List Flag) (line : Line) : List String → Except FlagProblem Line
  | [] => .ok line
  | word :: rest =>
    if word == "--" then .ok { line with arguments := line.arguments ++ rest }
    else match FlagWord.read? flags word with
      | none => readFrom flags { line with arguments := line.arguments ++ [word] } rest
      | some (.error problem) => .error problem
      | some (.ok (.settled values)) => do
        readFrom flags (← line.setAll values) rest
      | some (.ok (.waiting values flag problem)) =>
        match rest with
        | [] => .error problem
        | value :: rest => do
          readFrom flags (← (← line.setAll values).set flag value) rest

def read (flags : List Flag) (words : List String) : Except FlagProblem Line :=
  readFrom flags {} words

end Line

end ShapeForge.Cli
