import ShapeForge.Types.Scope

/-!
# Generated validators

Every structure gets a method that reports the first required member that is absent, and goes on
into the structures below.  A method is planned as the checks of its members in order.  The checks
become statements of a few kinds, and these are written out.
-/

namespace ShapeForge.Validation

open ShapeForge.Code (Item)

/-- Where the check of a member goes on. -/
inductive Descent where
  | none
  /-- Into the structure that the member holds. -/
  | inside
  /-- Into every item of a list of structures. -/
  | items
  /-- Into every value of a map of structures. -/
  | values
  deriving DecidableEq, Repr, Inhabited

structure MemberCheck where
  field : String
  member : String
  required : Bool
  descent : Descent
  deriving DecidableEq, Repr, Inhabited

structure Method where
  type : String
  checks : List MemberCheck
  deriving DecidableEq, Repr, Inhabited

/-- Where the check of a type goes on. -/
def descent (model : Model) : TypeRef → Except Fault Descent
  | .structure _ _ => .ok .inside
  | .list _ item => do
    let element ← model.classifyMember item
    return if element.isStructure then .items else .none
  | .map _ _ value => do
    let element ← model.classifyMember value
    return if element.isStructure then .values else .none
  | _ => .ok .none

def memberChecks (model : Model) (shape : Shape) : List Member → Except Fault (List MemberCheck)
  | [] => .ok []
  | member :: rest => do
    let type ← model.classifyMember member
    let below ← descent model type
    let check : MemberCheck :=
      { field := Naming.memberField shape member
        member := member.name
        required := member.traits.isRequired
        descent := below }
    return check :: (← memberChecks model shape rest)

def method (model : Model) (shape : Shape) : Except Fault Method := do
  return { type := Naming.declName shape.id,
           checks := ← memberChecks model shape shape.members }

def methods (model : Model) : List Shape → Except Fault (List Method)
  | [] => .ok []
  | shape :: rest => do
    let first ← method model shape
    return first :: (← methods model rest)

/-- What a method is called on: a field, an item of the list in a field, or the current value of a
loop over a map. -/
inductive Operand where
  | field (name : String)
  | item (name : String)
  | element
  deriving DecidableEq, Repr, Inhabited

def fieldText (name : String) : String :=
  "v." ++ name

def Operand.text : Operand → String
  | .field name => fieldText name
  | .item name => fieldText name ++ "[i]"
  | .element => "elem"

inductive Statement where
  /-- Return an error about the type if the receiver is nil. -/
  | requireReceiver (type : String)
  /-- Return an error about a member if its field is nil. -/
  | requireField (field type member : String)
  | call (operand : Operand)
  | unlessNil (field : String) (body : Statement)
  | forItems (field : String) (body : Statement)
  | forValues (field : String) (body : Statement)
  deriving DecidableEq, Repr, Inhabited

def Statement.text : Statement → String
  | .requireReceiver type =>
    "if v == nil \x7b\nreturn &" ++ Naming.requiredErrorType ++ "\x7bType: " ++
      Text.quote type ++ "\x7d\n\x7d\n"
  | .requireField field type member =>
    "if " ++ fieldText field ++ " == nil \x7b\nreturn &" ++ Naming.requiredErrorType ++
      "\x7bType: " ++ Text.quote type ++ ", Field: " ++ Text.quote member ++ "\x7d\n\x7d\n"
  | .call operand =>
    "if err := " ++ operand.text ++ ".Validate(); err != nil \x7b\nreturn err\n\x7d\n"
  | .unlessNil field body => "if " ++ fieldText field ++ " != nil \x7b\n" ++ body.text ++ "\x7d\n"
  | .forItems field body =>
    "for i := range " ++ fieldText field ++ " \x7b\n" ++ body.text ++ "\x7d\n"
  | .forValues field body =>
    "for _, elem := range " ++ fieldText field ++ " \x7b\n" ++ body.text ++ "\x7d\n"

def Descent.statements (field : String) (required : Bool) : Descent → List Statement
  | .none => []
  | .inside =>
    if required then [.call (.field field)] else [.unlessNil field (.call (.field field))]
  | .items => [.forItems field (.call (.item field))]
  | .values => [.forValues field (.call .element)]

def MemberCheck.statements (type : String) (check : MemberCheck) : List Statement :=
  (if check.required then [.requireField check.field type check.member] else []) ++
    check.descent.statements check.field check.required

def Method.statements (method : Method) : List Statement :=
  .requireReceiver method.type :: method.checks.flatMap (MemberCheck.statements method.type)

def Method.items (method : Method) : List Item :=
  [.blank,
    .comment [" Validate reports the first required member of " ++ method.type ++
      " that is absent."],
    .method ("v *" ++ method.type) "Validate" ("() error \x7b\n" ++
      "".intercalate (method.statements.map Statement.text) ++ "return nil\n\x7d")]

def requiredErrorItems : List Item :=
  [.comment [" " ++ Naming.requiredErrorType ++ " reports a required member that is absent."],
    .type Naming.requiredErrorType ("struct \x7b\n" ++
      "\t// Type is the enclosing structure.\n" ++
      "\tType string\n" ++
      "\t// Field is the missing member; empty when the structure itself is nil.\n" ++
      "\tField string\n" ++
      "\x7d"),
    .blank,
    .method ("e *" ++ Naming.requiredErrorType) "Error" ("() string \x7b\n" ++
      "\tif e.Field == \"\" \x7b\n" ++
      "\t\treturn \"required value missing: \" + e.Type\n" ++
      "\t\x7d\n" ++
      "\treturn \"required field missing: \" + e.Type + \".\" + e.Field\n" ++
      "\x7d")]

def validatorItems (declared : List Method) : List Item :=
  requiredErrorItems ++ declared.flatMap Method.items

def source (model : Model) (shapes : List Shape) : Except Fault String := do
  return Code.text (validatorItems (← methods model shapes))

end ShapeForge.Validation
