import ShapeForge.Text.Blank
import ShapeForge.Text.Quoted

/-!
# Shape identifiers

An identifier names a shape of a namespace, `example.weather#Forecast`, or a member of one,
`example.weather#Forecast$day`.  The type holds any text, and its accessors read every text by
the same cuts; `ShapeId.parse` accepts the texts in which each part is an identifier.
-/

namespace ShapeForge

structure ShapeId where
  text : String
  deriving DecidableEq, Repr, Inhabited, Hashable

namespace ShapeId

instance : Ord ShapeId where
  compare left right := compare left.text right.text

instance : ToString ShapeId where
  toString id := id.text

def empty : ShapeId := ⟨""⟩

def isEmpty (id : ShapeId) : Bool :=
  id.text.isEmpty

def preludeSpace : String := "smithy.api"

def prelude (name : String) : ShapeId :=
  ⟨preludeSpace ++ "#" ++ name⟩

/-- The input or output of operations that have none. -/
def unit : ShapeId := prelude "Unit"

/-- What stands before the first `#`. -/
def nameSpace (id : ShapeId) : String :=
  match Text.cutAt '#' id.text with
  | some (before, _) => before
  | none => id.text

/-- What stands between the first `#` and the next `$`. -/
def name (id : ShapeId) : String :=
  match Text.cutAt '#' id.text with
  | some (_, after) =>
    match Text.cutAt '$' after with
    | some (before, _) => before
    | none => after
  | none => ""

/-- What stands behind the first `$`. -/
def member (id : ShapeId) : String :=
  match Text.cutAt '$' id.text with
  | some (_, after) => after
  | none => ""

def withMember (id : ShapeId) (member : String) : ShapeId :=
  ⟨id.text ++ "$" ++ member⟩

def isPrelude (id : ShapeId) : Bool :=
  id.nameSpace == preludeSpace

/-- Whether the identifier stands for no data: empty, or the unit shape. -/
def isUnit (id : ShapeId) : Bool :=
  id.isEmpty || id == unit

def isIdentifierStart (c : Char) : Bool :=
  c == '_' || c.isAlpha

def isIdentifierChar (c : Char) : Bool :=
  isIdentifierStart c || c.isDigit

/-- Letters, digits and underscores that do not start with a digit. -/
def isIdentifierChars : List Char → Bool
  | [] => false
  | c :: rest => isIdentifierStart c && rest.all isIdentifierChar

def isIdentifier (text : String) : Bool :=
  isIdentifierChars text.toList

inductive Malformed where
  | missingHash
  | missingPart
  | repeatedHash
  | emptyName
  | invalidSpace
  | invalidName
  deriving DecidableEq, Repr

namespace Malformed

def message (problem : Malformed) (text : String) : String :=
  "shape id " ++ Text.quote text ++ match problem with
    | .missingHash => " is missing '#'"
    | .missingPart => " needs both a namespace and a name"
    | .repeatedHash => " contains more than one '#'"
    | .emptyName => " has an empty name"
    | .invalidSpace => " has an invalid namespace"
    | .invalidName => " has an invalid name"

end Malformed

/-- The name and the member behind the `#`; no `$` means no member. -/
def nameAndMember (rest : String) : String × Option String :=
  match Text.cutAt '$' rest with
  | some (name, member) => (name, some member)
  | none => (rest, none)

def parse (text : String) : Except Malformed ShapeId :=
  match Text.cutAt '#' text with
  | none => .error .missingHash
  | some (space, rest) =>
    if space.isEmpty || rest.isEmpty then .error .missingPart
    else if rest.toList.contains '#' then .error .repeatedHash
    else
      let (name, member) := nameAndMember rest
      if name.isEmpty || member.any (·.isEmpty) then .error .emptyName
      else if !(Text.split '.' space).all isIdentifier then .error .invalidSpace
      else if !isIdentifier name || !member.all isIdentifier then .error .invalidName
      else .ok ⟨text⟩

end ShapeId

end ShapeForge
