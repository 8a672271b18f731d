import ShapeForge.Emit.Build
import ShapeForge.Pattern.Check

/-!
# Type declarations

Every data shape of a namespace is declared as a type, in load order.  Structures become structs
with tagged fields, enumerations get a constant for every value, patterns get a method that
matches them, and errors get the methods that make them errors.
-/

namespace ShapeForge.Emit

open ShapeForge.Code (Item Constant)

/-- The type that every package declares for absent inputs and outputs. -/
def unitItems : List Item :=
  [.comment [" Unit is the input or output of operations that declare none."],
    .type Naming.unitType "struct\x7b\x7d",
    .blank,
    .comment [" Validate always succeeds; a Unit has no members."],
    .method ("*" ++ Naming.unitType) "Validate" "() error \x7b return nil \x7d"]

def patternName (name : String) : String :=
  name ++ "Pattern"

def matcherName (name : String) : String :=
  Naming.camel name ++ "Pattern"

def matcherItems (name : String) : List Item :=
  [.blank,
    .var (matcherName name) ("= regexp.MustCompile(" ++ patternName name ++ ")"),
    .blank,
    .comment [" Valid reports whether v matches " ++ patternName name ++ "."],
    .method ("v " ++ name) "Valid"
      ("() bool \x7b\nreturn " ++ matcherName name ++ ".MatchString(string(v))\n\x7d")]

def patternConstant (name pattern : String) : List Item :=
  [.blank,
    .comment [" " ++ patternName name ++ " is the pattern " ++ name ++ " values must match."],
    .const (patternName name) (Naming.stringLiteral pattern)]

def patternItems (emitter : Emitter) (shape : Shape) (kind : SimpleKind) (name pattern : String) :
    Build (List Item) := do
  if kind != .string && kind != .document then
    emitter.shapeIssue shape "pattern trait ignored on a non-string type" .info
    return []
  match Pattern.check pattern with
  | .error problem =>
    emitter.shapeIssue shape
      ("pattern is not valid RE2, no Valid method emitted: " ++ problem.message) .warning
    return patternConstant name pattern
  | .ok _ =>
    Build.emit (Emission.use "regexp")
    return patternConstant name pattern ++ matcherItems name

def typeItems (shape : Shape) (definition : String) : List Item :=
  let name := Naming.declName shape.id
  [.comment (shapeDoc shape name), .type name definition]

def simpleItems (emitter : Emitter) (shape : Shape) (kind : SimpleKind) : Build (List Item) := do
  match kind.goType? with
  | none => throw (.typeMapping kind.name shape.id.text)
  | some type =>
    if kind == .timestamp then Build.emit (Emission.use "time")
    let name := Naming.declName shape.id
    match shape.traits.pattern? with
    | none => return typeItems shape type
    | some pattern =>
      return typeItems shape type ++ (← patternItems emitter shape kind name pattern)

def enumConstant (shape : Shape) (numeric : Bool) (member : EnumMember) : Constant :=
  let name := Naming.enumConstName shape.id member.name
  let doc := member.traits.documentation
  { comment := if doc.isEmpty then "" else Naming.docComment doc name "\t"
    name
    definition := Naming.declName shape.id ++ " = " ++
      (if numeric then toString member.number else Text.quote member.value) }

def valuesName (name : String) : String :=
  name ++ "Values"

def enumItems (shape : Shape) (numeric : Bool) (members : List EnumMember) : List Item :=
  let name := Naming.declName shape.id
  let constants := members.map (enumConstant shape numeric)
  typeItems shape (if numeric then "int" else "string") ++
    (if members.isEmpty then [] else [.blank, .consts constants]) ++
    [.blank,
      .comment [" " ++ valuesName name ++ " returns the members of " ++ name ++
        " in declaration order."],
      .func (valuesName name) ("() []" ++ name ++ " \x7b\nreturn []" ++ name ++ "\x7b" ++
        ", ".intercalate (constants.map (·.name)) ++ "\x7d\n\x7d")]

def listItems (emitter : Emitter) (shape : Shape) (item : Member) : Build (List Item) := do
  let type ← Build.check (emitter.model.classifyMember item)
  let element ← Build.emit (emitter.scope.typeExpr type)
  return typeItems shape ("[]" ++ element)

def mapItems (emitter : Emitter) (shape : Shape) (key value : Member) : Build (List Item) := do
  let keyType ← Build.check (emitter.model.classifyMember key)
  let valueType ← Build.check (emitter.model.classifyMember value)
  let keyExpr ← Build.emit (emitter.scope.typeExpr keyType)
  let valueExpr ← Build.emit (emitter.scope.typeExpr valueType)
  return typeItems shape ("map[" ++ keyExpr ++ "]" ++ valueExpr)

/-- The tag of a member's field: its serialized name, and whether it may be left out. -/
def fieldTag (member : Member) : String :=
  if member.traits.isRequired then
    "json:\"" ++ member.jsonName ++ "\" validate:\"required\""
  else "json:\"" ++ member.jsonName ++ ",omitempty\""

def isString (type : TypeRef) : Bool :=
  type.simpleKind? == some .string

/-- The field of a member, and whether the member can be the message of an error. -/
def fieldText (emitter : Emitter) (shape : Shape) (member : Member) : Build (String × Bool) := do
  let (typeText, type) ← Build.emit (emitter.scope.fieldType member)
  let field := Naming.memberField shape member
  let doc := member.traits.documentation
  if member.traits.isStreaming then
    emitter.shapeIssue shape
      ("streaming member " ++ member.name ++ " is generated as a plain " ++ typeText) .info
  return ((if doc.isEmpty then "" else Naming.docComment doc field "\t") ++
    "\t" ++ field ++ " " ++ typeText ++ " \x60" ++ fieldTag member ++ "\x60\n",
    Text.equalFold member.name "message" && isString type)

def errorStatus (traits : Traits) : Int :=
  traits.status?.getD (if traits.fault? == some "client" then 400 else 500)

/-- The methods of an error, with the member that holds its message. -/
def errorItems (shape : Shape) (name : String) (message : Option Member) : List Item :=
  let returning (value : String) : String := "return " ++ value ++ "\n\x7d"
  [.blank,
    .comment [" Error implements error."],
    .method ("e *" ++ name) "Error" ("() string \x7b\n" ++
      (match message with
      | none => ""
      | some member =>
        let field := Naming.memberField shape member
        "if e != nil && e." ++ field ++ " != nil \x7b\nreturn " ++ Text.quote (name ++ ": ") ++
          " + string(*e." ++ field ++ ")\n\x7d\n") ++
      returning (Text.quote name)),
    .blank,
    .comment [" ErrorFault reports whether the client or the server caused the error."],
    .method ("*" ++ name) "ErrorFault"
      ("() string \x7b\n" ++ returning (Text.quote (shape.traits.fault?.getD ""))),
    .blank,
    .comment [" HTTPStatus returns the status code the error is served with."],
    .method ("*" ++ name) "HTTPStatus"
      ("() int \x7b\n" ++ returning (toString (errorStatus shape.traits)))]

def structureItems (emitter : Emitter) (shape : Shape) (members : List Member) :
    Build (List Item) := do
  let fields ← Build.each (fieldText emitter shape) members
  let messages := ((members.zip fields).filter (·.2.2)).map (·.1)
  return typeItems shape ("struct \x7b\n" ++ "".intercalate (fields.map (·.1)) ++ "\x7d") ++
    (if shape.isError then errorItems shape (Naming.declName shape.id) messages.getLast? else [])

def isData (shape : Shape) : Bool :=
  match shape.kind with
  | .simple | .enumeration | .list | .map | .struct => true
  | _ => false

def shapeItems (emitter : Emitter) (shape : Shape) : Build (List Item) :=
  match shape.body with
  | .simple kind => simpleItems emitter shape kind
  | .enumeration numeric members => return enumItems shape numeric members
  | .list item => listItems emitter shape item
  | .map key value => mapItems emitter shape key value
  | .structure members => structureItems emitter shape members
  | _ => return []

def typesBody (emitter : Emitter) (shapes : List Shape) : Build (List Item) := do
  let declared ← Build.each (shapeItems emitter) shapes
  return unitItems ++ declared.flatMap (.blank :: ·)

end ShapeForge.Emit
