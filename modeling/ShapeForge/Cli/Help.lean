import ShapeForge.Cli.Choice
import ShapeForge.Emit.DocFile

/-!
# Help

What the program tells about itself and its commands.
-/

namespace ShapeForge.Cli

def padded (width : Nat) (left right : String) : String :=
  left ++ String.ofList (List.replicate (width - left.length) ' ') ++ right

namespace Flag

def valueName (flag : Flag) : String :=
  match flag.type with
  | .text => " string"
  | .truth => ""
  | .whole => " int"
  | .natural => " uint"
  | .texts => " strings"

def head (flag : Flag) : String :=
  (match flag.letter with
  | some letter => "  -" ++ letter.toString ++ ", --"
  | none => "      --") ++ flag.name ++ flag.valueName

def description (flag : Flag) : String :=
  flag.usage ++
    if flag.default.isEmpty then "" else " (default " ++ Text.quote flag.default ++ ")"

def lines (flags : List Flag) : List String :=
  let width := (flags.map fun flag => flag.head.length).foldl max 0 + 3
  (flags.mergeSort fun left right => left.name ≤ right.name).map fun flag =>
    padded width flag.head flag.description

end Flag

/-- A part of help under a heading; an empty one is left out. -/
def section_ (heading : String) (lines : List String) : String :=
  if lines.isEmpty then "" else "\n\n" ++ heading ++ "\n" ++ "\n".intercalate lines

namespace Command

def usage (command : Command) : String :=
  "Usage:\n  " ++ command.path ++
    (if command.operands.isEmpty then "" else " " ++ command.operands) ++ " [flags]" ++
    (if command.example_.isEmpty then "" else "\n\nExamples:\n" ++ command.example_) ++
    section_ "Flags:" (Flag.lines (command.flags ++ [helpFlag command.name])) ++
    section_ "Global Flags:" (Flag.lines globalFlags) ++ "\n"

def helpText (command : Command) : String :=
  (if command.long.isEmpty then command.short else command.long) ++ "\n\n" ++ command.usage

end Command

def programDescription : String :=
  Command.paragraph
    ["smithygen turns a Smithy model into Go packages: one package per",
      "namespace with type declarations, service interfaces, HTTP routing,",
      "mock implementations, validators and test scaffolds.",
      "",
      "Settings are read from smithygen.yaml, SMITHYGEN_* environment variables",
      "and flags, in increasing order of precedence."]

def programUsage : String :=
  let commands := Command.all.mergeSort fun left right => left.name ≤ right.name
  "Usage:\n  " ++ programName ++ " [command]" ++
    section_ "Available Commands:"
      (commands.map fun command => "  " ++ padded 12 command.name command.short) ++
    section_ "Flags:" (Flag.lines (globalFlags ++ [helpFlag programName, versionFlag])) ++
    "\n\nUse \"" ++ programName ++
    " [command] --help\" for more information about a command.\n"

def programHelp : String :=
  programDescription ++ "\n\n" ++ programUsage

def versionText : String :=
  programName ++ " v" ++ Emit.programVersion ++ "\n"

end ShapeForge.Cli
