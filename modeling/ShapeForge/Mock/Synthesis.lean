import ShapeForge.Mock.Random
import ShapeForge.Mock.Value
import ShapeForge.Model.Operations
import ShapeForge.Types.Reference

/-!
# Synthesis of instances

An instance of a shape is drawn from a generator that the seed and the shape determine.  Members
are synthesized in their order.  A structure that is already being synthesized further up is left
out, and so is a list of such structures, so an instance is finite also where shapes contain
themselves.  A list or map that is entered again without a structure in between has no finite
instance, and its synthesis fails.
-/

namespace ShapeForge

def Mocks.usualListSize : Nat := 5

structure Mocks where
  model : Model
  seed : Nat := 1
  listSize : Nat := Mocks.usualListSize

/-- A synthesis draws numbers and may fail. -/
abbrev Draw (α : Type) := StateT Random (Except Fault) α

namespace Draw

def below (bound : Nat) : Draw Nat := fun random => .ok (random.below bound)

end Draw

/-- What is being synthesized around a value: the structures, and the lists and maps since the
innermost of them. -/
structure Surroundings where
  active : List ShapeId := []
  opened : List ShapeId := []

namespace Surroundings

def enter (around : Surroundings) (id : ShapeId) : Surroundings :=
  { active := id :: around.active, opened := [] }

def openContainer (around : Surroundings) (id : ShapeId) : Surroundings :=
  { around with opened := id :: around.opened }

end Surroundings

namespace Mocks

def others (model : Model) (ids : List ShapeId) : Nat :=
  model.shapes.countP fun shape => !ids.contains shape.id

theorem others_cons_lt {model : Model} {ids : List ShapeId} {shape : Shape}
    (member : shape ∈ model.shapes) (fresh : ¬ids.contains shape.id = true) :
    others model (shape.id :: ids) < others model ids := by
  refine Model.countP_lt_countP ?_ member ?_ ?_
  · intro other free
    simp at free ⊢
    exact free.2
  · simpa using fresh
  · simp

/-- A list or map contains itself without a structure in between. -/
def endless (id : ShapeId) : Fault :=
  .plain ("mockdata: " ++ id.text ++ " contains itself without a structure in between")

def scalar (target : ShapeId) (kind : SimpleKind) (name : String) : Draw MockValue := do
  match kind with
  | .integer | .long | .short | .byte => return .int target kind ((← Draw.below 100) + 1)
  | .float | .double => return .float target kind (.hundredths (← Draw.below 10000))
  | .boolean => return .bool target kind ((← Draw.below 2) == 1)
  | .timestamp => return .timestamp target kind
  | .blob => return .blob target kind name
  | _ => return .string target kind (name ++ "-" ++ toString (← Draw.below 10000))

def choice (target : ShapeId) (numeric : Bool) (members : List EnumMember) :
    Draw (Option MockValue) := do
  if members.isEmpty then return none
  let index ← Draw.below members.length
  match members[index]? with
  | none => return none
  | some member =>
    return some (.enumeration target member.name (if numeric then "" else member.value)
      (if numeric then member.number else 0))

mutual

def memberValue (mocks : Mocks) (around : Surroundings) (member : Member) (name : String) :
    Draw (Option MockValue) :=
  match _classified : mocks.model.classifyMember member with
  | .error fault => throw fault
  | .ok (.primitive target kind) => do return some (← scalar target kind name)
  | .ok (.simple shape kind) => do return some (← scalar shape.id kind name)
  | .ok (.enumeration shape numeric members) => choice shape.id numeric members
  | .ok (.structure shape members) =>
    if _active : around.active.contains shape.id then return none
    else do
      let fields ← structureFields mocks (around.enter shape.id) members
      return some (.structure shape.id fields)
  | .ok (.list shape item) =>
    if _opened : around.opened.contains shape.id then throw (endless shape.id)
    else
      match mocks.model.classifyMember item with
      | .error fault => throw fault
      | .ok type =>
        if type.isStructure && around.active.contains type.target then return none
        else do
          let items ← listItems mocks (around.openContainer shape.id) item name mocks.listSize
          return some (.list shape.id items)
  | .ok (.map shape key value) =>
    if _opened : around.opened.contains shape.id then throw (endless shape.id)
    else
      match mocks.model.classifyMember key, mocks.model.classifyMember value with
      | .error fault, _ => throw fault
      | .ok _, .error fault => throw fault
      | .ok _, .ok _ => do
        match ← memberValue mocks (around.openContainer shape.id) value name with
        | none => return none
        | some content =>
          match ← memberValue mocks (around.openContainer shape.id) key (name ++ "Key") with
          | none => return none
          | some chosen => return some (.map shape.id [(chosen, content)])
termination_by (others mocks.model around.active, others mocks.model around.opened, 0)
decreasing_by
  · exact Prod.Lex.left _ _
      (others_cons_lt (Model.mem_of_classifyMember _classified rfl) _active)
  · exact Prod.Lex.right _ (Prod.Lex.left _ _
      (others_cons_lt (Model.mem_of_classifyMember _classified rfl) _opened))
  · exact Prod.Lex.right _ (Prod.Lex.left _ _
      (others_cons_lt (Model.mem_of_classifyMember _classified rfl) _opened))
  · exact Prod.Lex.right _ (Prod.Lex.left _ _
      (others_cons_lt (Model.mem_of_classifyMember _classified rfl) _opened))

def structureFields (mocks : Mocks) (around : Surroundings) (members : List Member) :
    Draw (List (Member × MockValue)) :=
  match members with
  | [] => return []
  | member :: rest => do
    let first ← memberValue mocks around member member.name
    let fields ← structureFields mocks around rest
    return (first.map (member, ·)).toList ++ fields
termination_by
  (others mocks.model around.active, others mocks.model around.opened, members.length + 1)
decreasing_by
  · exact Prod.Lex.right _ (Prod.Lex.right _ (by simp))
  · exact Prod.Lex.right _ (Prod.Lex.right _ (by simp))

def listItems (mocks : Mocks) (around : Surroundings) (item : Member) (name : String)
    (count : Nat) : Draw (List MockValue) :=
  match count with
  | 0 => return []
  | more + 1 => do
    let first ← memberValue mocks around item name
    let items ← listItems mocks around item name more
    return first.toList ++ items
termination_by
  (others mocks.model around.active, others mocks.model around.opened, count + 1)
decreasing_by
  · exact Prod.Lex.right _ (Prod.Lex.right _ (by simp))
  · exact Prod.Lex.right _ (Prod.Lex.right _ (by simp))

end

def random (mocks : Mocks) (root : ShapeId) : Random :=
  .seeded mocks.seed (Random.hash root.text)

def ofStructure (mocks : Mocks) (id : ShapeId) : Except Fault MockValue := do
  let shape ← mocks.model.resolveStructure id
  let (fields, _) ← structureFields mocks (Surroundings.enter {} id) shape.members
    (mocks.random id)
  return .structure id fields

def synthesize (mocks : Mocks) (id : ShapeId) : Except Fault (Option MockValue) := do
  let _ ← mocks.model.classify id
  let root : Member := { name := id.name, container := .empty, target := id }
  let (value, _) ← memberValue mocks {} root id.name (mocks.random id)
  return value

end Mocks

end ShapeForge
