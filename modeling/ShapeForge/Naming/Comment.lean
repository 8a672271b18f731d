import ShapeForge.Code.Declaration
import ShapeForge.Text.Blank
import ShapeForge.Text.Quoted

/-!
# Documentation and literals in generated code

Documentation becomes comments, whose first line starts with the name that they describe, and
texts become string literals.
-/

namespace ShapeForge.Naming

def maxDescription : Nat := 200

def cleanDescription (text : String) : String :=
  let line := " ".intercalate (Text.fields text)
  if line.length > maxDescription then
    String.ofList (line.toList.take (maxDescription - 3)) ++ "..."
  else line

/-- The lines of documentation without surrounding white space; none if there is no text. -/
def docLines (text : String) : List String :=
  let text := Text.trim text
  if text.isEmpty then [] else (Text.lines text).map Text.trim

/-- What follows the slashes of a comment for a line of documentation. -/
def spaced (line : String) : String :=
  if line.isEmpty then "" else " " ++ line

def docCommentLines (text name : String) : List String :=
  match docLines text with
  | [] => []
  | first :: rest => (" " ++ name ++ spaced first) :: rest.map spaced

/-- Documentation as a comment whose first line starts with a name. -/
def docComment (text name indent : String) : String :=
  "".intercalate ((docCommentLines text name).map (indent ++ Code.commentLine ·))

/-- A string literal, without escapes where possible. -/
def stringLiteral (text : String) : String :=
  if text.toList.contains '\x60' then Text.quote text else "\x60" ++ text ++ "\x60"

end ShapeForge.Naming
