import ShapeForge.Model.Basic

/-!
# Types of data shapes

A reference to data is a type of the prelude or a shape of the model.  `Model.classify` tells
which, and fails where the target is missing, has no type, or is not data.
-/

namespace ShapeForge

namespace SimpleKind

/-- The type of the emitted code for a kind; numbers of any size have none. -/
def goType? : SimpleKind → Option String
  | .string => some "string"
  | .integer => some "int"
  | .long => some "int64"
  | .short => some "int16"
  | .byte => some "int8"
  | .float => some "float32"
  | .double => some "float64"
  | .boolean => some "bool"
  | .timestamp => some "time.Time"
  | .document => some "string"
  | .blob => some "[]byte"
  | .bigInteger => none
  | .bigDecimal => none

/-- The type of the emitted code for a kind, empty if there is none. -/
def goType (kind : SimpleKind) : String :=
  kind.goType?.getD ""

end SimpleKind

inductive TypeRef where
  | primitive (target : ShapeId) (kind : SimpleKind)
  | simple (shape : Shape) (kind : SimpleKind)
  | structure (shape : Shape) (members : List Member)
  | list (shape : Shape) (member : Member)
  | enumeration (shape : Shape) (numeric : Bool) (members : List EnumMember)
  | map (shape : Shape) (key value : Member)
  deriving Repr, Inhabited, DecidableEq

namespace TypeRef

def categories : List String :=
  ["primitive", "simple type", "structure", "list", "enum", "map"]

def categoryOf (number : Int) : String :=
  if number < 0 then "unknown" else categories[number.toNat]?.getD "unknown"

def category : TypeRef → String
  | .primitive _ _ => "primitive"
  | .simple _ _ => "simple type"
  | .structure _ _ => "structure"
  | .list _ _ => "list"
  | .enumeration _ _ _ => "enum"
  | .map _ _ _ => "map"

def shape? : TypeRef → Option Shape
  | .primitive _ _ => none
  | .simple shape _ => some shape
  | .structure shape _ => some shape
  | .list shape _ => some shape
  | .enumeration shape _ _ => some shape
  | .map shape _ _ => some shape

def target : TypeRef → ShapeId
  | .primitive target _ => target
  | .simple shape _ => shape.id
  | .structure shape _ => shape.id
  | .list shape _ => shape.id
  | .enumeration shape _ _ => shape.id
  | .map shape _ _ => shape.id

def simpleKind? : TypeRef → Option SimpleKind
  | .primitive _ kind => some kind
  | .simple _ kind => some kind
  | _ => none

def isNilable : TypeRef → Bool
  | .list _ _ => true
  | .map _ _ _ => true
  | .primitive _ kind => kind == .blob
  | .simple _ kind => kind == .blob
  | _ => false

def isStructure : TypeRef → Bool
  | .structure _ _ => true
  | _ => false

def isList : TypeRef → Bool
  | .list _ _ => true
  | _ => false

end TypeRef

namespace Model

def typeOf (shape : Shape) : Except Fault TypeRef :=
  match shape.body with
  | .simple kind =>
    if kind.goType?.isSome then .ok (.simple shape kind)
    else .error (.typeMapping kind.name shape.id.text)
  | .structure members => .ok (.structure shape members)
  | .list member => .ok (.list shape member)
  | .enumeration numeric members => .ok (.enumeration shape numeric members)
  | .map key value => .ok (.map shape key value)
  | _ => .error (.reference shape.id.text "" (shape.kind.name ++ " is not a data shape"))

def classify (model : Model) (target : ShapeId) : Except Fault TypeRef :=
  if target.isPrelude then
    match SimpleKind.ofPrelude? target.name with
    | some kind =>
      if kind.goType?.isSome then .ok (.primitive target kind)
      else .error (.typeMapping target.text "")
    | none => .error (.typeMapping target.text "")
  else
    match model.lookup? target with
    | none => .error (.reference target.text "" "")
    | some shape => typeOf shape

/-- A failure about a target, with the member that refers to it as its origin. -/
def withOrigin (member : Member) : Fault → Fault
  | .reference shape origin problem =>
    .reference shape (if origin.isEmpty then member.id.text else origin) problem
  | .typeMapping shape origin =>
    .typeMapping shape (if origin.isEmpty then member.id.text else origin)
  | other => other

def classifyMember (model : Model) (member : Member) : Except Fault TypeRef :=
  (model.classify member.target).mapError (withOrigin member)

/-- A type other than one of the prelude is a shape of the model. -/
theorem mem_of_classify {model : Model} {target : ShapeId} {type : TypeRef} {shape : Shape}
    (classified : model.classify target = .ok type) (isShape : type.shape? = some shape) :
    shape ∈ model.shapes := by
  unfold classify at classified
  split at classified
  · split at classified
    · split at classified
      · cases classified
        simp [TypeRef.shape?] at isShape
      · cases classified
    · cases classified
  · split at classified
    · cases classified
    · rename_i found defined
      have member : found ∈ model.shapes := List.mem_of_find?_eq_some defined
      unfold typeOf at classified
      split at classified
      · split at classified
        · cases classified
          simp [TypeRef.shape?] at isShape
          exact isShape ▸ member
        · cases classified
      all_goals first
        | (cases classified
           simp [TypeRef.shape?] at isShape
           exact isShape ▸ member)
        | cases classified

/-- The type of a member, other than one of the prelude, is a shape of the model. -/
theorem mem_of_classifyMember {model : Model} {member : Member} {type : TypeRef} {shape : Shape}
    (classified : model.classifyMember member = .ok type) (isShape : type.shape? = some shape) :
    shape ∈ model.shapes := by
  unfold classifyMember at classified
  cases result : model.classify member.target with
  | error fault =>
    rw [result] at classified
    cases classified
  | ok found =>
    rw [result] at classified
    cases classified
    exact mem_of_classify result isShape

end Model

end ShapeForge
