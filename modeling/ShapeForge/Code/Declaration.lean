import ShapeForge.Text.Casing

/-!
# Declarations of generated code

A file of generated code is a list of declarations with comments and blank lines between them.
What a declaration consists of is kept as text, up to the names that it declares.
-/

namespace ShapeForge.Code

def keywords : List String :=
  ["break", "case", "chan", "const", "continue", "default", "defer", "else", "fallthrough",
    "for", "func", "go", "goto", "if", "import", "interface", "map", "package", "range",
    "return", "select", "struct", "switch", "type", "var"]

/-- A constant of a block: the comment above it, its name, and what follows the name. -/
structure Constant where
  comment : String
  name : String
  definition : String
  deriving Repr, Inhabited, DecidableEq

inductive Item where
  | blank
  /-- Lines of a comment, without the slashes that each of them starts with. -/
  | comment (lines : List String)
  | package (name : String)
  | type (name definition : String)
  | const (name value : String)
  | consts (members : List Constant)
  | var (name definition : String)
  | func (name definition : String)
  | method (receiver name definition : String)
  deriving Repr, Inhabited, DecidableEq

def commentLine (line : String) : String :=
  "//" ++ line ++ "\n"

def Constant.text (constant : Constant) : String :=
  constant.comment ++ "\t" ++ constant.name ++ " " ++ constant.definition ++ "\n"

namespace Item

def text : Item → String
  | .blank => "\n"
  | .comment lines => "".intercalate (lines.map commentLine)
  | .package name => "package " ++ name ++ "\n"
  | .type name definition => "type " ++ name ++ " " ++ definition ++ "\n"
  | .const name value => "const " ++ name ++ " = " ++ value ++ "\n"
  | .consts members => "const (\n" ++ "".intercalate (members.map Constant.text) ++ ")\n"
  | .var name definition => "var " ++ name ++ " " ++ definition ++ "\n"
  | .func name definition => "func " ++ name ++ definition ++ "\n"
  | .method receiver name definition =>
    "func (" ++ receiver ++ ") " ++ name ++ definition ++ "\n"

/-- The names that an element declares for the whole package.  A method belongs to its type. -/
def names : Item → List String
  | .type name _ => [name]
  | .const name _ => [name]
  | .consts members => members.map (·.name)
  | .var name _ => [name]
  | .func name _ => [name]
  | .blank | .comment _ | .package _ | .method _ _ _ => []

end Item

def text (items : List Item) : String :=
  "".intercalate (items.map Item.text)

def isExported (name : String) : Bool :=
  match name.toList with
  | [] => false
  | first :: _ => Text.isUpper first

def exported (items : List Item) : List String :=
  (items.flatMap Item.names).filter isExported

end ShapeForge.Code
