import ShapeForge.Shape.Id
import ShapeForge.Text.Order
import ShapeForge.Version

/-!
# Dependencies

The source of a model imports shapes of other namespaces by `use` directives, one on a line.
From them follows the table of namespaces that the model depends on, each with the version that
it was resolved to, if it was.
-/

namespace ShapeForge

structure Use where
  id : ShapeId
  line : Nat
  deriving Repr, DecidableEq, Inhabited

namespace Use

def isSeparator (c : Char) : Bool :=
  c == ' ' || c == '\t' || c == '\n' || c == '\r' || c.toNat == 12

/-- A name of letters, digits and underscores, with dots where `dotted`. -/
def isName (dotted : Bool) : List Char → Bool
  | [] => false
  | c :: rest =>
    ShapeId.isIdentifierStart c &&
      rest.all fun d => ShapeId.isIdentifierChar d || (dotted && d == '.')

def ofLine? (line : List Char) : Option ShapeId :=
  match Text.dropLeading? "use".toList line with
  | none => none
  | some rest =>
    let (gap, shape) := rest.span isSeparator
    match shape.span (· != '#') with
    | (space, _ :: name) =>
      if !gap.isEmpty && isName true space && isName false name then
        some ⟨String.ofList shape⟩
      else none
    | (_, []) => none

def maxLineSize : Nat := 65536

def ofLines : Nat → List String → List Use
  | _, [] => []
  | number, line :: rest =>
    if line.utf8ByteSize ≥ maxLineSize then []
    else match ofLine? (Text.trimChars line.toList) with
      | some id => { id, line := number } :: ofLines (number + 1) rest
      | none => ofLines (number + 1) rest

def ofSource (source : String) : List Use :=
  ofLines 1 (Text.lines source)

end Use

/-- The namespaces that a model depends on, ascending, with their versions. -/
structure Dependencies where
  entries : List (String × Option Version) := []
  deriving Repr, Inhabited, DecidableEq

namespace Dependencies

def insert (space : String) (version : Option Version) :
    List (String × Option Version) → List (String × Option Version)
  | [] => [(space, version)]
  | (other, old) :: rest =>
    if space == other then (space, version) :: rest
    else if space < other then (space, version) :: (other, old) :: rest
    else (other, old) :: insert space version rest

def set (table : Dependencies) (space : String) (version : Option Version) : Dependencies :=
  ⟨insert space version table.entries⟩

/-- The table of imported namespaces other than the prelude and a model's own. -/
def ofUses (uses : List Use) (own : List String) : Dependencies :=
  (uses.map (·.id.nameSpace)).foldl
    (fun table space =>
      if space == ShapeId.preludeSpace || own.contains space then table else table.set space none)
    {}

def namespaces (table : Dependencies) : List String :=
  table.entries.map (·.1)

def unresolved (table : Dependencies) : List String :=
  (table.entries.filter (·.2.isNone)).map (·.1)

def isEmpty (table : Dependencies) : Bool :=
  table.entries.isEmpty

end Dependencies

end ShapeForge
