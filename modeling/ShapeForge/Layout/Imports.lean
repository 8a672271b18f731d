import ShapeForge.Files.Path
import ShapeForge.Layout.References
import ShapeForge.Text.Printable

/-!
# Import blocks

Imports that the code does not refer to are removed.  The others are sorted, those of hosted
paths, which have a point in their first element, apart from the rest.
-/

namespace ShapeForge.Layout

structure Import where
  name : Option String
  path : String
  deriving DecidableEq, Repr, Inhabited

def hexValue (c : Char) : Nat :=
  if c.isDigit then c.toNat - '0'.toNat
  else if 'a' ≤ c && c ≤ 'f' then c.toNat - 'a'.toNat + 10
  else c.toNat - 'A'.toNat + 10

def hexChar (digits : List Char) : Char :=
  Char.ofNat (digits.foldl (fun value c => value * 16 + hexValue c) 0)

def unquoted : List Char → List Char
  | '\\' :: 'x' :: a :: b :: rest => hexChar [a, b] :: unquoted rest
  | '\\' :: 'u' :: a :: b :: c :: d :: rest => hexChar [a, b, c, d] :: unquoted rest
  | '\\' :: 'U' :: a :: b :: c :: d :: e :: f :: g :: h :: rest =>
    hexChar [a, b, c, d, e, f, g, h] :: unquoted rest
  | '\\' :: c :: rest => (if c == '"' || c == '\\' then c else '\n') :: unquoted rest
  | c :: rest => c :: unquoted rest
  | [] => []

def isPathChar (c : Char) : Bool :=
  Text.isPrintable c && !Text.isBlank c && c.toNat != 0xFFFD &&
    !("!\"#$%&'()*,:;<=>?[\\]^\x7b|\x7d\x60".toList.contains c)

def importOf (line : Line) : Except SyntaxProblem Import :=
  let named (name : Option String) (token : Token) : Except SyntaxProblem Import :=
    let path := String.ofList (unquoted (token.text.toList.drop 1).dropLast)
    if token.kind == .string && !path.isEmpty && path.toList.all isPathChar then
      .ok { name, path }
    else .error .badImport
  match line with
  | [token] => named none token
  | [name, token] => if name.isName then named (some name.text) token else .error .badImport
  | _ => .error .badImport

def isMajorVersion (element : String) : Bool :=
  match element.toList with
  | 'v' :: digits => !digits.isEmpty && digits.all Char.isDigit
  | _ => false

/-- The name that a package is assumed to have by its path: the last element, major versions
apart, up to the first character that no name holds. -/
def assumedName (path : String) : String :=
  let base := Path.base path
  let dir := Path.dir path
  let base := if isMajorVersion base && dir != "." then Path.base dir else base
  let base := if base.startsWith "go-" then (base.drop 3).toString else base
  String.ofList (base.toList.takeWhile continuesWord)

namespace Import

def identifier (item : Import) : String :=
  item.name.getD (assumedName item.path)

def group (item : Import) : Nat :=
  if item.path.startsWith "appengine" then 2
  else if (item.path.toList.takeWhile (· != '/')).contains '.' then 1
  else 0

def precedes (left right : Import) : Bool :=
  left.group < right.group ||
    (left.group == right.group &&
      (left.path < right.path ||
        (left.path == right.path && left.name.getD "" ≤ right.name.getD "")))

def text (item : Import) : String :=
  (match item.name with
  | some name => name ++ " "
  | none => "") ++ "\"" ++ item.path ++ "\""

end Import

def groupedLines : List Import → List String
  | [] => []
  | [item] => ["\t" ++ item.text]
  | item :: next :: rest =>
    ("\t" ++ item.text) :: (if item.group == next.group then [] else [""]) ++
      groupedLines (next :: rest)

def importLines (items : List Import) (referred : List String) : List String :=
  let kept := items.filter fun item => referred.contains item.identifier
  if kept.isEmpty then []
  else "import (" :: groupedLines (kept.mergeSort Import.precedes) ++ [")"]

end ShapeForge.Layout
