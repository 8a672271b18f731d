import ShapeForge.Proofs.Validation.Checking
import ShapeForge.Proofs.Validation.Program

/-!
# Values of the emitted types

A value has its JSON: a structure becomes an object with its members under their serialized names,
in which a nil field is left out if the member is optional and null if it is required.  A value of
a type has nil or values of their types in its fields.  With distinct serialized names, the object
gives exactly the fields that are set.
-/

namespace ShapeForge.Validation

/-! ## The JSON of a value -/

/-- The JSON of the field with a name. -/
def fieldJson (fields : List (String × Json)) (name : String) : Json :=
  ((fields.find? (·.1 == name)).map (·.2)).getD .null

/-- The members of an object for the fields of a structure: nil is left out where the member is
optional, and null where it is required. -/
def objectOf (shape : Shape) (fields : List (String × Json)) : List (String × Json) :=
  shape.members.filterMap fun member =>
    if (fieldJson fields (Naming.memberField shape member)).isNull && !member.traits.isRequired then
      none
    else some (member.jsonName, fieldJson fields (Naming.memberField shape member))

namespace Data

mutual

def toJson : Data → Json
  | .absent => .null
  | .plain content => content
  | .record shape fields => .object (objectOf shape (toJsonFields fields))
  | .list items => .array (toJsonItems items)
  | .map entries => .object (toJsonFields entries)

def toJsonFields : List (String × Data) → List (String × Json)
  | [] => []
  | (name, value) :: rest => (name, toJson value) :: toJsonFields rest

def toJsonItems : List Data → List Json
  | [] => []
  | item :: rest => toJson item :: toJsonItems rest

end

theorem toJsonFields_eq (fields : List (String × Data)) :
    toJsonFields fields = fields.map fun field => (field.1, field.2.toJson) := by
  induction fields with
  | nil => rfl
  | cons field rest ih => rw [toJsonFields, ih, List.map_cons]

theorem toJsonItems_eq (items : List Data) : toJsonItems items = items.map toJson := by
  induction items with
  | nil => rfl
  | cons item rest ih => rw [toJsonItems, ih, List.map_cons]

/-- The JSON of a field is found under its name. -/
theorem fieldJson_toJsonFields (shape : Shape) (fields : List (String × Data)) (name : String) :
    fieldJson (toJsonFields fields) name = ((Data.record shape fields).field name).toJson := by
  rw [fieldJson, field]
  induction fields with
  | nil => rfl
  | cons first rest ih =>
    rw [toJsonFields, List.find?_cons, List.find?_cons]
    cases first.1 == name with
    | true => rfl
    | false => exact ih

/-- A value without maps of structures. -/
inductive MapFree : Data → Prop where
  | absent : MapFree .absent
  | plain {content} : MapFree (.plain content)
  | record {shape fields} (parts : ∀ field ∈ fields, MapFree field.2) :
      MapFree (.record shape fields)
  | list {items} (parts : ∀ item ∈ items, MapFree item) : MapFree (.list items)

theorem MapFree.field {value : Data} (mapFree : value.MapFree) (name : String) :
    (value.field name).MapFree := by
  cases mapFree with
  | absent | plain | list => exact .absent
  | @record shape fields parts =>
    rw [Data.field]
    cases found : fields.find? (·.1 == name) with
    | none => exact .absent
    | some field => exact parts field (List.mem_of_find?_eq_some found)

end Data

/-! ## Values of types -/

/-- Whether a type is a structure, a list of structures or a map of structures. -/
def holdsStructures (model : Model) : TypeRef → Bool
  | .structure _ _ => true
  | .list _ item => (model.classify item.target).toOption.any (·.isStructure)
  | .map _ _ value => (model.classify value.target).toOption.any (·.isStructure)
  | _ => false

/-- A set value of the type that a target has.  Fields of structures may be nil; the items of lists
and the values of maps are structures. -/
inductive Typed (model : Model) : ShapeId → Data → Prop where
  | plain {target type content}
      (classified : model.classify target = .ok type)
      (shallow : holdsStructures model type = false)
      (isSet : content.isNull = false) :
      Typed model target (.plain content)
  | record {target shape members fields}
      (classified : model.classify target = .ok (.structure shape members))
      (parts : ∀ member ∈ members,
        ((Data.record shape fields).field (Naming.memberField shape member)).isNil = false →
          Typed model member.target
            ((Data.record shape fields).field (Naming.memberField shape member))) :
      Typed model target (.record shape fields)
  | list {target shape item found members items}
      (classified : model.classify target = .ok (.list shape item))
      (element : model.classify item.target = .ok (.structure found members))
      (parts : ∀ value ∈ items, Typed model item.target value) :
      Typed model target (.list items)
  | map {target shape key content found members entries}
      (classified : model.classify target = .ok (.map shape key content))
      (element : model.classify content.target = .ok (.structure found members))
      (distinct : (entries.map Prod.fst).Nodup)
      (parts : ∀ entry ∈ entries, Typed model content.target entry.2) :
      Typed model target (.map entries)

/-- The fields of a structure are nil or have their types. -/
def TypedFields (model : Model) (shape : Shape) (fields : List (String × Data)) : Prop :=
  ∀ member ∈ shape.members,
    ((Data.record shape fields).field (Naming.memberField shape member)).isNil = false →
      Typed model member.target
        ((Data.record shape fields).field (Naming.memberField shape member))

/-- A pointer to a structure: nil, or a structure whose fields are nil or have their types. -/
def TypedPointer (model : Model) (shape : Shape) (value : Data) : Prop :=
  value = .absent ∨ ∃ fields, value = .record shape fields ∧ TypedFields model shape fields

theorem Typed.isNull_toJson {model : Model} {target : ShapeId} {value : Data}
    (typed : Typed model target value) :
    value.toJson.isNull = false := by
  cases typed with
  | plain classified shallow isSet => exact isSet
  | record | list | map => rfl

/-- The values of a structure's type are structures. -/
theorem Typed.eq_record
    {model : Model} {target : ShapeId} {value : Data} {shape : Shape} {members : List Member}
    (typed : Typed model target value)
    (classified : model.classify target = .ok (.structure shape members)) :
    ∃ fields, value = .record shape fields := by
  cases typed with
  | plain sameTarget shallow =>
    cases classified.symm.trans sameTarget
    cases shallow
  | record sameTarget =>
    cases classified.symm.trans sameTarget
    exact ⟨_, rfl⟩
  | list sameTarget | map sameTarget => cases classified.symm.trans sameTarget

/-! ## Members of the JSON of a structure -/

section Object

variable {shape : Shape} {fields : List (String × Data)} {member : Member}

theorem mem_objectOf {key : String} {value : Json} :
    (key, value) ∈ objectOf shape (Data.toJsonFields fields) ↔
      ∃ member ∈ shape.members,
        ((Data.record shape fields).field (Naming.memberField shape member)).toJson = value ∧
          member.jsonName = key ∧ (value.isNull = false ∨ member.traits.isRequired = true) := by
  simp only [objectOf, List.mem_filterMap, Data.fieldJson_toJsonFields shape]
  refine exists_congr fun member => and_congr_right fun _ => ?_
  split
  case isTrue leftOut =>
    simp only [Bool.and_eq_true, Bool.not_eq_true'] at leftOut
    simp only [reduceCtorEq, false_iff]
    rintro ⟨rfl, -, isSet | isRequired⟩
    · rw [leftOut.1] at isSet
      cases isSet
    · rw [leftOut.2] at isRequired
      cases isRequired
  case isFalse kept =>
    simp only [Bool.and_eq_true, Bool.not_eq_true', not_and, Bool.not_eq_false] at kept
    simp only [Option.some.injEq, Prod.mk.injEq]
    constructor
    · rintro ⟨rfl, rfl⟩
      refine ⟨rfl, rfl, ?_⟩
      rw [← Bool.not_eq_true]
      tauto
    · rintro ⟨rfl, rfl, -⟩
      exact ⟨rfl, rfl⟩

theorem nodup_objectOf {values : List (String × Json)}
    (distinct : (shape.members.map Member.jsonName).Nodup) :
    ((objectOf shape values).map Prod.fst).Nodup := by
  refine distinct.sublist ?_
  unfold objectOf
  generalize shape.members = members
  induction members with
  | nil => exact List.Sublist.slnil
  | cons member rest ih =>
    rw [List.filterMap_cons, List.map_cons]
    split
    case h_1 => exact ih.cons member.jsonName
    case h_2 field isField =>
      have sameName : field.1 = member.jsonName := by
        split at isField
        · cases isField
        · cases isField
          rfl
      rw [List.map_cons, sameName]
      exact ih.cons_cons member.jsonName

theorem given?_of_set (distinct : (shape.members.map Member.jsonName).Nodup)
    (isMember : member ∈ shape.members)
    (isSet : ((Data.record shape fields).field
      (Naming.memberField shape member)).toJson.isNull = false) :
    given? (objectOf shape (Data.toJsonFields fields)) member.jsonName =
      some ((Data.record shape fields).field (Naming.memberField shape member)).toJson := by
  rw [given?_eq_some (nodup_objectOf distinct), mem_objectOf]
  exact ⟨⟨member, isMember, rfl, rfl, Or.inl isSet⟩, isSet⟩

theorem given?_of_nil (distinct : (shape.members.map Member.jsonName).Nodup)
    (isMember : member ∈ shape.members)
    (isNil : ((Data.record shape fields).field (Naming.memberField shape member)).isNil = true) :
    given? (objectOf shape (Data.toJsonFields fields)) member.jsonName = none := by
  cases given : given? (objectOf shape (Data.toJsonFields fields)) member.jsonName with
  | none => rfl
  | some value =>
    rw [given?_eq_some (nodup_objectOf distinct), mem_objectOf] at given
    obtain ⟨⟨other, isOther, rfl, sameName, -⟩, isSet⟩ := given
    cases List.inj_on_of_nodup_map distinct isOther isMember sameName
    cases nothing : (Data.record shape fields).field (Naming.memberField shape member) with
    | absent =>
      rw [nothing] at isSet
      cases isSet
    | plain | record | list | map =>
      rw [nothing] at isNil
      cases isNil

end Object

end ShapeForge.Validation
