import Mathlib.Data.List.Nodup
import ShapeForge.Proofs.Model.Reachability
import ShapeForge.Proofs.Text.Order
import ShapeForge.Validation.Instance

/-!
# The checks of an instance

The checker goes through members, items and entries and stops at the first fault.  Each of these
loops is a list of outcomes taken in turn.  Where the keys of an object are distinct, a look-up
finds exactly its members, and a required member is missing exactly if the object does not give it.
-/

namespace ShapeForge

/-! ## Members of objects -/

namespace Json

variable {key : String} {value : Json} {fields : List (String × Json)}

theorem mem_of_lookup (found : lookup key fields = some value) : (key, value) ∈ fields := by
  obtain ⟨⟨other, other'⟩, isFound, rfl⟩ := Option.map_eq_some_iff.mp found
  have sameKey : other = key := by simpa using List.find?_some isFound
  rw [← sameKey]
  exact List.mem_reverse.mp (List.mem_of_find?_eq_some isFound)

theorem lookup_eq_none : lookup key fields = none ↔ key ∉ fields.map Prod.fst := by
  simp only [lookup, Option.map_eq_none_iff, List.find?_eq_none, List.mem_reverse, beq_iff_eq,
    List.mem_map, not_exists, not_and]

/-- With distinct keys a look-up finds every member. -/
theorem lookup_eq_some (distinct : (fields.map Prod.fst).Nodup) :
    lookup key fields = some value ↔ (key, value) ∈ fields := by
  refine ⟨mem_of_lookup, fun isField => ?_⟩
  cases found : lookup key fields with
  | none =>
    exact (lookup_eq_none.mp found (List.mem_map.mpr ⟨(key, value), isField, rfl⟩)).elim
  | some other =>
    have same := List.inj_on_of_nodup_map distinct (mem_of_lookup found) isField rfl
    cases same
    rfl

theorem depth_le_depthItems {items : List Json} {item : Json} (isItem : item ∈ items) :
    item.depth ≤ depthItems items := by
  induction items with
  | nil => cases isItem
  | cons first rest ih =>
    rw [depthItems]
    rcases List.mem_cons.mp isItem with rfl | later
    · exact Nat.le_max_left _ _
    · exact Nat.le_trans (ih later) (Nat.le_max_right _ _)

theorem depth_le_depthFields (isField : (key, value) ∈ fields) :
    value.depth ≤ depthFields fields := by
  induction fields with
  | nil => cases isField
  | cons first rest ih =>
    rw [depthFields]
    rcases List.mem_cons.mp isField with rfl | later
    · exact Nat.le_max_left _ _
    · exact Nat.le_trans (ih later) (Nat.le_max_right _ _)

end Json

namespace Validation

variable {model : Model} {shape : Shape}

/-! ## Outcomes in turn -/

/-- The first fault among outcomes. -/
def inTurn : List (Except Fault Unit) → Except Fault Unit
  | [] => .ok ()
  | first :: rest => first.bind fun _ => inTurn rest

theorem inTurn_eq_ok {outcomes : List (Except Fault Unit)} :
    inTurn outcomes = .ok () ↔ ∀ outcome ∈ outcomes, outcome = .ok () := by
  induction outcomes with
  | nil => simp [inTurn]
  | cons first rest ih =>
    cases first with
    | error fault => simp [inTurn, Except.bind]
    | ok done =>
      rw [inTurn, Except.bind, ih]
      simp

/-- The check of one member of a structure. -/
def checkMember (model : Model) (descend : Descend) (shape : Shape) (absent : List String)
    (fields : List (String × Json)) (path : String) (member : Member) : Except Fault Unit :=
  if absent.contains member.jsonName then
    .error (.requiredField (Naming.declName shape.id) member.name path)
  else
    match given? fields member.jsonName with
    | none => .ok ()
    | some value =>
      (model.classifyMember member).bind fun type =>
        checkNested model descend type value (path ++ "." ++ member.jsonName)

theorem checkMembers_eq (model : Model) (descend : Descend) (shape : Shape) (absent : List String)
    (fields : List (String × Json)) (path : String) (members : List Member) :
    checkMembers model descend shape absent fields path members =
      inTurn (members.map (checkMember model descend shape absent fields path)) := by
  induction members with
  | nil => rfl
  | cons member rest ih =>
    rw [checkMembers, List.map_cons, inTurn, ← ih, checkMember]
    split
    · rfl
    · cases given? fields member.jsonName with
      | none => rfl
      | some value =>
        cases model.classifyMember member with
        | error fault => rfl
        | ok type => rfl

theorem checkStructure_object (model : Model) (depth : Nat) (shape : Shape) (members : List Member)
    (fields : List (String × Json)) (path : String) :
    checkStructure model (depth + 1) shape members (.object fields) path =
      inTurn (members.map
        (checkMember model (checkStructure model depth) shape (missing members fields) fields
          path)) :=
  checkMembers_eq model (checkStructure model depth) shape (missing members fields) fields path
    members

theorem checkStructure_null
    (model : Model) (depth : Nat) (shape : Shape) (members : List Member) (path : String) :
    checkStructure model (depth + 1) shape members .null path =
      .error (.requiredField (Naming.declName shape.id) "" path) :=
  rfl

theorem checkItems_eq (descend : Descend) (shape : Shape) (members : List Member) (path : String)
    (index : Nat) (items : List Json) :
    checkItems descend shape members path index items =
      inTurn ((items.zipIdx index).map fun item =>
        descend shape members item.1 (path ++ "[" ++ toString item.2 ++ "]")) := by
  induction items generalizing index with
  | nil => rfl
  | cons item rest ih =>
    rw [checkItems, List.zipIdx_cons, List.map_cons, inTurn, ← ih]
    rfl

theorem checkEntries_eq (descend : Descend) (shape : Shape) (members : List Member) (path : String)
    (listed : List (String × Json)) :
    checkEntries descend shape members path listed =
      inTurn (listed.map fun entry =>
        descend shape members entry.2 (path ++ "[" ++ Text.quote entry.1 ++ "]")) := by
  induction listed with
  | nil => rfl
  | cons entry rest ih =>
    rw [checkEntries, List.map_cons, inTurn, ← ih]
    rfl

section Nested

variable {descend : Descend}

theorem checkNested_list_of_structure {item : Member} {found : Shape} {members : List Member}
    (classified : model.classifyMember item = .ok (.structure found members))
    {items : List Json} {path : String} :
    checkNested model descend (.list shape item) (.array items) path =
      checkItems descend found members path 0 items := by
  simp only [checkNested, classified]
  rfl

theorem checkNested_list_of_other {item : Member} {element : TypeRef}
    (classified : model.classifyMember item = .ok element) (other : structure? element = none)
    (value : Json) (path : String) :
    checkNested model descend (.list shape item) value path = .ok () := by
  simp only [checkNested, classified, bind, Except.bind, other]
  rfl

theorem checkNested_map_of_structure {key content : Member} {found : Shape} {members : List Member}
    (classified : model.classifyMember content = .ok (.structure found members))
    {fields : List (String × Json)} {path : String} :
    checkNested model descend (.map shape key content) (.object fields) path =
      checkEntries descend found members path (entries fields) := by
  simp only [checkNested, classified]
  rfl

theorem checkNested_map_of_other {key content : Member} {element : TypeRef}
    (classified : model.classifyMember content = .ok element) (other : structure? element = none)
    (value : Json) (path : String) :
    checkNested model descend (.map shape key content) value path = .ok () := by
  simp only [checkNested, classified, bind, Except.bind, other]
  rfl

end Nested

/-! ## Given and missing members -/

variable {fields : List (String × Json)}

theorem given?_eq_some {key : String} {value : Json} (distinct : (fields.map Prod.fst).Nodup) :
    given? fields key = some value ↔ (key, value) ∈ fields ∧ value.isNull = false := by
  rw [given?, Option.filter_eq_some_iff, Json.lookup_eq_some distinct, Bool.not_eq_true']

/-- With distinct serialized names a member is missing exactly if it is required and not given. -/
theorem contains_missing {members : List Member} {member : Member}
    (distinct : (members.map Member.jsonName).Nodup) (isMember : member ∈ members) :
    (missing members fields).contains member.jsonName = true ↔
      member.traits.isRequired = true ∧ given? fields member.jsonName = none := by
  rw [List.contains_iff_mem, missing, List.mem_filter, Option.isNone_iff_eq_none, List.mem_map]
  constructor
  · rintro ⟨⟨other, isRequired, sameName⟩, absent⟩
    rw [List.mem_filter] at isRequired
    cases List.inj_on_of_nodup_map distinct isRequired.1 isMember sameName
    exact ⟨isRequired.2, absent⟩
  · rintro ⟨isRequired, absent⟩
    exact ⟨⟨member, List.mem_filter.mpr ⟨isMember, isRequired⟩, rfl⟩, absent⟩

theorem mem_entries {entry : String × Json} :
    entry ∈ entries fields ↔ Json.lookup entry.1 fields = some entry.2 := by
  rcases entry with ⟨key, value⟩
  simp only [entries, List.mem_filterMap, Option.map_eq_some_iff, Prod.mk.injEq,
    Text.mem_sortedDistinct]
  constructor
  · rintro ⟨other, -, found, isFound, rfl, rfl⟩
    exact isFound
  · intro isFound
    exact ⟨key, List.mem_map.mpr ⟨(key, value), Json.mem_of_lookup isFound, rfl⟩, value, isFound,
      rfl, rfl⟩

/-! ## Checks that pass -/

/-- An object passes if every required member is given and everything given passes. -/
theorem checkStructure_eq_ok {depth : Nat} {members : List Member} {path : String}
    (distinct : (members.map Member.jsonName).Nodup)
    (complete : ∀ member ∈ members, member.traits.isRequired = true →
      given? fields member.jsonName ≠ none)
    (nested : ∀ member ∈ members, ∀ value, given? fields member.jsonName = some value →
      ∃ type, model.classify member.target = .ok type ∧
        ∀ path, checkNested model (checkStructure model depth) type value path = .ok ()) :
    checkStructure model (depth + 1) shape members (.object fields) path = .ok () := by
  rw [checkStructure_object, inTurn_eq_ok]
  intro outcome isOutcome
  obtain ⟨member, isMember, rfl⟩ := List.mem_map.mp isOutcome
  have present : ¬(missing members fields).contains member.jsonName = true := by
    rw [contains_missing distinct isMember]
    rintro ⟨isRequired, absent⟩
    exact complete member isMember isRequired absent
  rw [checkMember, if_neg present]
  cases given : given? fields member.jsonName with
  | none => rfl
  | some value =>
    obtain ⟨type, classified, passes⟩ := nested member isMember value given
    rw [← Model.classifyMember_eq_ok] at classified
    rw [classified]
    exact passes _

theorem checkNested_array_eq_ok {descend : Descend} {item : Member} {element : TypeRef}
    {items : List Json} (classified : model.classify item.target = .ok element)
    (passes : ∀ value ∈ items, ∀ path, checkNested model descend element value path = .ok ())
    (path : String) :
    checkNested model descend (.list shape item) (.array items) path = .ok () := by
  rw [← Model.classifyMember_eq_ok] at classified
  cases element with
  | «structure» found members =>
    rw [checkNested_list_of_structure classified, checkItems_eq, inTurn_eq_ok]
    intro outcome isOutcome
    obtain ⟨⟨value, index⟩, isItem, rfl⟩ := List.mem_map.mp isOutcome
    exact passes value (List.fst_mem_of_mem_zipIdx isItem) _
  | primitive | simple | list | enumeration | map =>
    exact checkNested_list_of_other classified rfl _ _

theorem checkNested_object_eq_ok {descend : Descend} {key content : Member} {element : TypeRef}
    (classified : model.classify content.target = .ok element)
    (passes : ∀ field ∈ fields, ∀ path, checkNested model descend element field.2 path = .ok ())
    (path : String) :
    checkNested model descend (.map shape key content) (.object fields) path = .ok () := by
  rw [← Model.classifyMember_eq_ok] at classified
  cases element with
  | «structure» found members =>
    rw [checkNested_map_of_structure classified, checkEntries_eq, inTurn_eq_ok]
    intro outcome isOutcome
    obtain ⟨entry, isEntry, rfl⟩ := List.mem_map.mp isOutcome
    exact passes entry (Json.mem_of_lookup (mem_entries.mp isEntry)) _
  | primitive | simple | list | enumeration | map =>
    exact checkNested_map_of_other classified rfl _ _

end Validation

end ShapeForge
