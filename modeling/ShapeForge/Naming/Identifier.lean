import ShapeForge.Code.Declaration
import ShapeForge.Shape.Basic

/-!
# Names of generated code

Shape names, member names and namespaces become names of Go types, fields, parameters,
constants and packages.  Keywords are escaped with a trailing underscore.
-/

namespace ShapeForge.Naming

def escapeReserved (name : String) : String :=
  if Code.keywords.contains (Text.lower name) then name ++ "_" else name

def words (text : String) : List String :=
  Text.fieldsWhere (!Text.isWordChar ·) text

def pascal (text : String) : String :=
  "".intercalate ((words text).map fun word => String.ofList (Text.titleFrom false word.toList))

def camel (text : String) : String :=
  match (pascal text).toList with
  | [] => ""
  | first :: rest => String.ofList (Text.toLower first :: rest)

def startsWithLetter (text : String) : Bool :=
  match text.toList with
  | [] => false
  | first :: _ => Text.isLetter first

def typeName (text : String) : String :=
  let name := pascal text
  if name.isEmpty then "Type"
  else escapeReserved (if startsWithLetter name then name else "T" ++ name)

def fieldName (text : String) : String :=
  typeName text

def paramName (text : String) : String :=
  let name := camel text
  if name.isEmpty then "param"
  else escapeReserved (if startsWithLetter name then name else "p" ++ name)

/-- The name of a constant.  A name all in capitals is taken as words in small letters. -/
def constName (text : String) : String :=
  pascal (if Text.upper text == text then Text.lower text else text)

def packageName (space : String) : String :=
  let last := match Text.cutLast '.' space with
    | some (_, last) => last
    | none => space
  let name := String.ofList ((Text.lower last).toList.filter Text.isWordChar)
  let name := if startsWithLetter name then name else "pkg" ++ name
  if Code.keywords.contains name then name ++ "pkg" else name

def unitType : String := "Unit"

def requiredErrorType : String := "RequiredFieldError"

/-- The name that is declared for a shape.  Shapes named like a type of every package get a
suffix. -/
def declName (id : ShapeId) : String :=
  let name := typeName id.name
  if name == unitType || name == requiredErrorType then name ++ "Shape" else name

def enumConstName (id : ShapeId) (member : String) : String :=
  declName id ++ constName member

def hookName (interface : String) : String :=
  "new" ++ interface ++ "UnderTest"

def handlerNames : List String :=
  ["w", "r", "h", "input", "output", "err", "raw", "status", "string", "bool", "int", "error",
    "any", "time"]

def handlerParam (member : String) : String :=
  let name := paramName member
  if handlerNames.contains name then name ++ "Param" else name

def structMethods (shape : Shape) : List String :=
  if shape.isError then ["Validate", "Error", "ErrorFault", "HTTPStatus"] else ["Validate"]

def fieldTaken (shape : Shape) (member : Member) (name : String) : Bool :=
  shape.members.any fun other => other.name != member.name && fieldName other.name == name

def extendName (taken : String → Bool) : Nat → String → String
  | 0, name => name
  | fuel + 1, name => if taken name then extendName taken fuel (name ++ "_") else name

/-- The field for a member.  A name that a method has gets a suffix. -/
def memberField (shape : Shape) (member : Member) : String :=
  let name := fieldName member.name
  if (structMethods shape).contains name then
    extendName (fieldTaken shape member) shape.members.length (name ++ "Field")
  else name

end ShapeForge.Naming
