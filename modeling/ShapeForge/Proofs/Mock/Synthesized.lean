import ShapeForge.Proofs.Mock.Draw
import ShapeForge.Proofs.Model.Reachability

/-!
# What synthesis gives

`Mocks.Synthesized` relates a target to the instances that synthesis may give for it inside a list
of active structures, or to nothing where the target is left out.  It forgets the generator and the
names of texts, and keeps what decides the parts of an instance.  Every synthesis that succeeds
gives an instance of this relation, so properties of instances are proved by induction on it.
-/

namespace ShapeForge

namespace SimpleKind

def isWhole : SimpleKind → Bool
  | .integer | .long | .short | .byte => true
  | _ => false

def isFractional : SimpleKind → Bool
  | .float | .double => true
  | _ => false

def isTextual : SimpleKind → Bool
  | .string | .document | .bigInteger | .bigDecimal => true
  | _ => false

end SimpleKind

namespace Mocks

/-! ## Scalars and enumerations -/

/-- The values that a scalar of a kind can have. -/
inductive Scalar (target : ShapeId) (kind : SimpleKind) : MockValue → Prop where
  | int (number : Int) (whole : kind.isWhole = true) (low : 1 ≤ number) (high : number ≤ 100) :
      Scalar target kind (.int target kind number)
  | float (count : Nat) (fractional : kind.isFractional = true) (bounded : count < 10000) :
      Scalar target kind (.float target kind (.hundredths count))
  | bool (value : Bool) (isBoolean : kind = .boolean) :
      Scalar target kind (.bool target kind value)
  | timestamp (isTimestamp : kind = .timestamp) :
      Scalar target kind (.timestamp target kind)
  | blob (text : String) (isBlob : kind = .blob) :
      Scalar target kind (.blob target kind text)
  | string (text : String) (textual : kind.isTextual = true) :
      Scalar target kind (.string target kind text)

/-- The instance of an enumeration that is one of its members. -/
def chosen (target : ShapeId) (numeric : Bool) (member : EnumMember) : MockValue :=
  .enumeration target member.name (if numeric then "" else member.value)
    (if numeric then member.number else 0)

theorem ensures_scalar (target : ShapeId) (kind : SimpleKind) (name : String) :
    Draw.Ensures (scalar target kind name) (Scalar target kind) := by
  have whole (isWhole : kind.isWhole = true) :
      Draw.Ensures (do return .int target kind ((← Draw.below 100) + 1)) (Scalar target kind) := by
    refine Draw.Ensures.bind (Draw.Ensures.below (by decide)) fun number bounded => ?_
    exact Draw.Ensures.pure (.int _ isWhole (by omega) (by omega))
  have fractional (isFractional : kind.isFractional = true) :
      Draw.Ensures (do return .float target kind (.hundredths (← Draw.below 10000)))
        (Scalar target kind) := by
    refine Draw.Ensures.bind (Draw.Ensures.below (by decide)) fun count bounded => ?_
    exact Draw.Ensures.pure (.float count isFractional bounded)
  have textual (isTextual : kind.isTextual = true) :
      Draw.Ensures
        (do return .string target kind (name ++ "-" ++ toString (← Draw.below 10000)))
        (Scalar target kind) := by
    refine Draw.Ensures.bind (Draw.Ensures.below (by decide)) fun number _ => ?_
    exact Draw.Ensures.pure (.string _ isTextual)
  cases kind with
  | integer | long | short | byte => exact whole rfl
  | float | double => exact fractional rfl
  | boolean =>
    refine Draw.Ensures.bind (Draw.Ensures.below (by decide)) fun number _ => ?_
    exact Draw.Ensures.pure (.bool _ rfl)
  | timestamp => exact Draw.Ensures.pure (.timestamp rfl)
  | blob => exact Draw.Ensures.pure (.blob name rfl)
  | string | document | bigInteger | bigDecimal => exact textual rfl

/-- An enumeration has an instance unless it is empty. -/
theorem ensures_choice (target : ShapeId) (numeric : Bool) (members : List EnumMember) :
    Draw.Ensures (choice target numeric members) fun value =>
      (members = [] ∧ value = none) ∨
        ∃ member ∈ members, value = some (chosen target numeric member) := by
  unfold choice
  cases members with
  | nil => exact Draw.Ensures.pure (Or.inl ⟨rfl, rfl⟩)
  | cons first rest =>
    refine Draw.Ensures.bind (Draw.Ensures.below (by simp)) fun index bounded => ?_
    rw [List.getElem?_eq_getElem bounded]
    exact Draw.Ensures.pure (Or.inr ⟨_, List.getElem_mem bounded, rfl⟩)

/-! ## Instances of targets -/

/-- The fields of the members that were not left out. -/
def present (results : List (Member × Option MockValue)) : List (Member × MockValue) :=
  results.filterMap fun result => result.2.map (result.1, ·)

theorem mem_present {results : List (Member × Option MockValue)} {field : Member × MockValue} :
    field ∈ present results ↔ (field.1, some field.2) ∈ results := by
  rcases field with ⟨member, value⟩
  simp only [present, List.mem_filterMap, Option.map_eq_some_iff, Prod.mk.injEq]
  constructor
  · rintro ⟨⟨found, result⟩, isResult, kept, isKept, rfl, rfl⟩
    simp only at isKept
    rwa [isKept] at isResult
  · intro isResult
    exact ⟨_, isResult, value, rfl, rfl, rfl⟩

/-- The instances that synthesis may give for a target inside active structures, or nothing where
the target is left out. -/
inductive Synthesized (mocks : Mocks) : List ShapeId → ShapeId → Option MockValue → Prop where
  | primitive {active target kind value}
      (classified : mocks.model.classify target = .ok (.primitive target kind))
      (scalar : Scalar target kind value) :
      Synthesized mocks active target (some value)
  | simple {active target shape kind value}
      (classified : mocks.model.classify target = .ok (.simple shape kind))
      (scalar : Scalar shape.id kind value) :
      Synthesized mocks active target (some value)
  | emptyEnumeration {active target shape numeric}
      (classified : mocks.model.classify target = .ok (.enumeration shape numeric [])) :
      Synthesized mocks active target none
  | enumeration {active target shape numeric members member}
      (classified : mocks.model.classify target = .ok (.enumeration shape numeric members))
      (isMember : member ∈ members) :
      Synthesized mocks active target (some (chosen shape.id numeric member))
  | activeStructure {active target shape members}
      (classified : mocks.model.classify target = .ok (.structure shape members))
      (isActive : shape.id ∈ active) :
      Synthesized mocks active target none
  | structure {active target shape members}
      (results : List (Member × Option MockValue))
      (classified : mocks.model.classify target = .ok (.structure shape members))
      (inactive : shape.id ∉ active)
      (aligned : results.map Prod.fst = members)
      (parts : ∀ result ∈ results,
        Synthesized mocks (shape.id :: active) result.1.target result.2) :
      Synthesized mocks active target (some (.structure shape.id (present results)))
  | activeElement {active target shape item type}
      (classified : mocks.model.classify target = .ok (.list shape item))
      (element : mocks.model.classify item.target = .ok type)
      (isStructure : type.isStructure = true)
      (isActive : type.target ∈ active) :
      Synthesized mocks active target none
  | list {active target shape item type}
      (results : List (Option MockValue))
      (classified : mocks.model.classify target = .ok (.list shape item))
      (element : mocks.model.classify item.target = .ok type)
      (inactive : ¬(type.isStructure = true ∧ type.target ∈ active))
      (size : results.length = mocks.listSize)
      (parts : ∀ result ∈ results, Synthesized mocks active item.target result) :
      Synthesized mocks active target (some (.list shape.id (results.filterMap id)))
  | withoutValue {active target shape key value}
      (classified : mocks.model.classify target = .ok (.map shape key value))
      (content : Synthesized mocks active value.target none) :
      Synthesized mocks active target none
  | withoutKey {active target shape key value}
      (classified : mocks.model.classify target = .ok (.map shape key value))
      (entry : Synthesized mocks active key.target none) :
      Synthesized mocks active target none
  | map {active target shape key value entry content}
      (classified : mocks.model.classify target = .ok (.map shape key value))
      (valuePart : Synthesized mocks active value.target (some content))
      (keyPart : Synthesized mocks active key.target (some entry)) :
      Synthesized mocks active target (some (.map shape.id [(entry, content)]))

/-- The fields that synthesis may give for the members of a structure. -/
def SynthesizedFields
    (mocks : Mocks) (active : List ShapeId) (members : List Member)
    (fields : List (Member × MockValue)) : Prop :=
  ∃ results : List (Member × Option MockValue),
    results.map Prod.fst = members ∧ fields = present results ∧
      ∀ result ∈ results, Synthesized mocks active result.1.target result.2

/-- The items that synthesis may give for a list of some length. -/
def SynthesizedItems
    (mocks : Mocks) (active : List ShapeId) (item : Member) (count : Nat)
    (items : List MockValue) : Prop :=
  ∃ results : List (Option MockValue),
    results.length = count ∧ items = results.filterMap id ∧
      ∀ result ∈ results, Synthesized mocks active item.target result

theorem SynthesizedItems.cons {mocks : Mocks} {active : List ShapeId} {item : Member} {count : Nat}
    {first : Option MockValue} {items : List MockValue}
    (head : Synthesized mocks active item.target first)
    (tail : SynthesizedItems mocks active item count items) :
    SynthesizedItems mocks active item (count + 1) (first.toList ++ items) := by
  rcases tail with ⟨results, size, rfl, parts⟩
  refine ⟨first :: results, by simp [size], ?_, ?_⟩
  · cases first <;> rfl
  · intro result member
    rcases List.mem_cons.mp member with rfl | later
    · exact head
    · exact parts result later

theorem SynthesizedFields.cons
    {mocks : Mocks} {active : List ShapeId} {member : Member} {rest : List Member}
    {first : Option MockValue} {fields : List (Member × MockValue)}
    (head : Synthesized mocks active member.target first)
    (tail : SynthesizedFields mocks active rest fields) :
    SynthesizedFields mocks active (member :: rest)
      ((first.map (member, ·)).toList ++ fields) := by
  rcases tail with ⟨results, aligned, rfl, parts⟩
  refine ⟨(member, first) :: results, by simp [aligned], ?_, ?_⟩
  · cases first <;> rfl
  · intro result isResult
    rcases List.mem_cons.mp isResult with rfl | later
    · exact head
    · exact parts result later

/-! ## Every synthesis gives such an instance -/

/-- What the three functions of the synthesis return is synthesized. -/
theorem ensures_synthesized (mocks : Mocks) :
    (∀ around member name,
      Draw.Ensures (memberValue mocks around member name)
        (Synthesized mocks around.active member.target)) ∧
    (∀ around item name count,
      Draw.Ensures (listItems mocks around item name count)
        (SynthesizedItems mocks around.active item count)) ∧
    (∀ around members,
      Draw.Ensures (structureFields mocks around members)
        (SynthesizedFields mocks around.active members)) := by
  refine memberValue.mutual_induct_unfolding mocks
    (fun around member _ draw => draw.Ensures (Synthesized mocks around.active member.target))
    (fun around item _ count draw =>
      draw.Ensures (SynthesizedItems mocks around.active item count))
    (fun around members draw => draw.Ensures (SynthesizedFields mocks around.active members))
    ?unresolved ?primitive ?simple ?enumeration ?activeStructure ?inactiveStructure
    ?endlessList ?elementUnresolved ?activeElement ?list
    ?endlessMap ?keyUnresolved ?valueUnresolved ?map
    ?noItems ?moreItems ?noFields ?moreFields
  case primitive =>
    intro around member name target kind classified
    rw [Model.classifyMember_eq_ok] at classified
    cases Model.target_of_classify classified
    refine Draw.Ensures.bind (ensures_scalar _ kind name) fun value scalar => ?_
    exact Draw.Ensures.pure (.primitive classified scalar)
  case simple =>
    intro around member name shape kind classified
    rw [Model.classifyMember_eq_ok] at classified
    refine Draw.Ensures.bind (ensures_scalar _ kind name) fun value scalar => ?_
    exact Draw.Ensures.pure (.simple classified scalar)
  case enumeration =>
    intro around member name shape numeric members classified random value after run
    rw [Model.classifyMember_eq_ok] at classified
    rcases ensures_choice _ _ _ random value after run with ⟨rfl, rfl⟩ | ⟨one, isMember, rfl⟩
    · exact .emptyEnumeration classified
    · exact .enumeration classified isMember
  case activeStructure =>
    intro around member name shape members classified isActive
    rw [Model.classifyMember_eq_ok] at classified
    exact Draw.Ensures.pure (.activeStructure classified (List.contains_iff_mem.mp isActive))
  case inactiveStructure =>
    intro around member name shape members classified inactive ih
    rw [Model.classifyMember_eq_ok] at classified
    refine Draw.Ensures.bind ih fun fields isFields => ?_
    rcases isFields with ⟨results, aligned, rfl, parts⟩
    exact Draw.Ensures.pure
      (.structure results classified (mt List.contains_iff_mem.mpr inactive) aligned parts)
  case activeElement =>
    intro around member name shape item classified _ type element isActive
    rw [Model.classifyMember_eq_ok] at classified element
    rw [Bool.and_eq_true] at isActive
    exact Draw.Ensures.pure
      (.activeElement classified element isActive.1 (List.contains_iff_mem.mp isActive.2))
  case list =>
    intro around member name shape item classified _ type element inactive ih
    rw [Model.classifyMember_eq_ok] at classified element
    rw [Bool.and_eq_true, List.contains_iff_mem] at inactive
    refine Draw.Ensures.bind ih fun items isItems => ?_
    rcases isItems with ⟨results, size, rfl, parts⟩
    exact Draw.Ensures.pure (.list results classified element inactive size parts)
  case map =>
    intro around member name shape key value classified _ keyType valueType _ _ valueIH keyIH
    rw [Model.classifyMember_eq_ok] at classified
    refine Draw.Ensures.bind valueIH fun content isContent => ?_
    cases content with
    | none => exact Draw.Ensures.pure (.withoutValue classified isContent)
    | some content =>
      refine Draw.Ensures.bind keyIH fun entry isEntry => ?_
      cases entry with
      | none => exact Draw.Ensures.pure (.withoutKey classified isEntry)
      | some entry => exact Draw.Ensures.pure (.map classified isContent isEntry)
  case noItems =>
    intro around item name
    exact Draw.Ensures.pure ⟨[], rfl, rfl, fun _ member => by cases member⟩
  case moreItems =>
    intro around item name more firstIH restIH
    refine Draw.Ensures.bind firstIH fun first isFirst => ?_
    exact Draw.Ensures.bind restIH fun items isItems => Draw.Ensures.pure (isItems.cons isFirst)
  case noFields =>
    intro around
    exact Draw.Ensures.pure ⟨[], rfl, rfl, fun _ member => by cases member⟩
  case moreFields =>
    intro around member rest firstIH restIH
    refine Draw.Ensures.bind firstIH fun first isFirst => ?_
    exact Draw.Ensures.bind restIH fun fields isFields => Draw.Ensures.pure (isFields.cons isFirst)
  all_goals
    intros
    exact Draw.Ensures.throw

/-! ## The roots of a synthesis -/

theorem ofStructure_eq (mocks : Mocks) (id : ShapeId) :
    mocks.ofStructure id =
      (mocks.model.resolveStructure id).bind fun shape =>
        (structureFields mocks (Surroundings.enter {} id) shape.members (mocks.random id)).map
          fun drawn => .structure id drawn.1 := by
  unfold ofStructure
  cases mocks.model.resolveStructure id with
  | error fault => rfl
  | ok shape =>
    simp only [bind, Except.bind]
    cases structureFields mocks (Surroundings.enter {} id) shape.members (mocks.random id) <;> rfl

def root (id : ShapeId) : Member :=
  { name := id.name, container := .empty, target := id }

theorem synthesize_eq (mocks : Mocks) (id : ShapeId) :
    mocks.synthesize id =
      (mocks.model.classify id).bind fun _ =>
        (memberValue mocks {} (root id) id.name (mocks.random id)).map (·.1) := by
  unfold synthesize
  cases mocks.model.classify id with
  | error fault => rfl
  | ok type =>
    simp only [bind, Except.bind, root]
    split <;> rename_i run <;> rw [run] <;> rfl

/-- An instance of a structure consists of the fields of its members inside that structure. -/
theorem synthesized_of_ofStructure {mocks : Mocks} {id : ShapeId} {value : MockValue}
    (run : mocks.ofStructure id = .ok value) :
    ∃ shape fields, mocks.model.resolveStructure id = .ok shape ∧
      value = .structure id fields ∧ SynthesizedFields mocks [id] shape.members fields := by
  rw [ofStructure_eq] at run
  obtain ⟨shape, resolved, run⟩ := bind_eq_ok.mp run
  obtain ⟨drawn, fieldsRun, same⟩ := map_eq_ok.mp run
  exact ⟨shape, drawn.1, resolved, same.symm,
    (ensures_synthesized mocks).2.2 _ _ _ drawn.1 drawn.2 fieldsRun⟩

theorem synthesized_of_synthesize {mocks : Mocks} {id : ShapeId} {value : Option MockValue}
    (run : mocks.synthesize id = .ok value) :
    Synthesized mocks [] id value := by
  rw [synthesize_eq] at run
  obtain ⟨type, -, run⟩ := bind_eq_ok.mp run
  obtain ⟨drawn, valueRun, rfl⟩ := map_eq_ok.mp run
  exact (ensures_synthesized mocks).1 _ _ _ _ drawn.1 drawn.2 valueRun

/-! ## A structure that contains itself -/

section Equations

variable {mocks : Mocks} {around : Surroundings} {member : Member} {name : String}

/-- What is synthesized for a member by its type. -/
def ofType (mocks : Mocks) (around : Surroundings) (name : String) :
    TypeRef → Draw (Option MockValue)
  | .primitive target kind => do return some (← scalar target kind name)
  | .simple shape kind => do return some (← scalar shape.id kind name)
  | .enumeration shape numeric members => choice shape.id numeric members
  | .structure shape members =>
    if around.active.contains shape.id then return none
    else do
      let fields ← structureFields mocks (around.enter shape.id) members
      return some (.structure shape.id fields)
  | .list shape item =>
    if around.opened.contains shape.id then throw (endless shape.id)
    else
      match mocks.model.classifyMember item with
      | .error fault => throw fault
      | .ok type =>
        if type.isStructure && around.active.contains type.target then return none
        else do
          let items ← listItems mocks (around.openContainer shape.id) item name mocks.listSize
          return some (.list shape.id items)
  | .map shape key value =>
    if around.opened.contains shape.id then throw (endless shape.id)
    else
      match mocks.model.classifyMember key, mocks.model.classifyMember value with
      | .error fault, _ => throw fault
      | .ok _, .error fault => throw fault
      | .ok _, .ok _ => do
        match ← memberValue mocks (around.openContainer shape.id) value name with
        | none => return none
        | some content =>
          match ← memberValue mocks (around.openContainer shape.id) key (name ++ "Key") with
          | none => return none
          | some chosen => return some (.map shape.id [(chosen, content)])

theorem memberValue_eq {type : TypeRef}
    (classified : mocks.model.classifyMember member = .ok type) :
    memberValue mocks around member name = ofType mocks around name type := by
  rw [memberValue]
  split <;> rename_i found <;> cases classified.symm.trans found <;> rfl

theorem memberValue_list {shape : Shape} {item : Member} {type : TypeRef}
    (classified : mocks.model.classifyMember member = .ok (.list shape item))
    (element : mocks.model.classifyMember item = .ok type) :
    memberValue mocks around member name =
      if around.opened.contains shape.id then throw (endless shape.id)
      else if type.isStructure && around.active.contains type.target then return none
      else do
        let items ← listItems mocks (around.openContainer shape.id) item name mocks.listSize
        return some (.list shape.id items) := by
  rw [memberValue_eq classified, ofType, element]

theorem memberValue_map {shape : Shape} {key value : Member} {keyType valueType : TypeRef}
    (classified : mocks.model.classifyMember member = .ok (.map shape key value))
    (keyResolved : mocks.model.classifyMember key = .ok keyType)
    (valueResolved : mocks.model.classifyMember value = .ok valueType) :
    memberValue mocks around member name =
      if around.opened.contains shape.id then throw (endless shape.id)
      else do
        match ← memberValue mocks (around.openContainer shape.id) value name with
        | none => return none
        | some content =>
          match ← memberValue mocks (around.openContainer shape.id) key (name ++ "Key") with
          | none => return none
          | some chosen => return some (.map shape.id [(chosen, content)]) := by
  rw [memberValue_eq classified, ofType, keyResolved, valueResolved]

end Equations

namespace Journal

/-- The shape of an entry, which holds other entries. -/
def entryId : ShapeId := ⟨"example.journal#Entry"⟩

def entriesId : ShapeId := ⟨"example.journal#Entries"⟩

def timesId : ShapeId := ⟨"example.journal#Times"⟩

def timestamp : ShapeId := .prelude "Timestamp"

def written : Member :=
  { name := "written", container := entryId, target := timestamp,
    traits := [⟨Trait.required, "\x7b\x7d"⟩] }

def next : Member := { name := "next", container := entryId, target := entryId }

def replies : Member := { name := "replies", container := entryId, target := entriesId }

def edited : Member := { name := "edited", container := entryId, target := timesId }

def entry : Shape := { id := entryId, body := .structure [written, next, replies, edited] }

def reply : Member := { name := "member", container := entriesId, target := entryId }

def entries : Shape := { id := entriesId, body := .list reply }

def time : Member := { name := "member", container := timesId, target := timestamp }

def times : Shape := { id := timesId, body := .list time }

/-- Mocks of a journal, whose entries refer to entries directly and through a list. -/
def mocks : Mocks := { model := { shapes := [entry, entries, times] }, listSize := 2 }

/-- The fields of an entry: both ways back to entries are left out. -/
def fields : List (Member × MockValue) :=
  [(written, .timestamp timestamp (some .timestamp)),
    (edited, .list timesId
      [.timestamp timestamp (some .timestamp), .timestamp timestamp (some .timestamp)])]

def sample : MockValue := .structure entryId fields

theorem structureFields_entry :
    structureFields mocks (Surroundings.enter {} entryId) entry.members = pure fields := by
  let inside : Surroundings := Surroundings.enter {} entryId
  have editedType : mocks.model.classifyMember edited = .ok (.list times time) := rfl
  have timeType : mocks.model.classifyMember time = .ok (.primitive timestamp .timestamp) := rfl
  have writtenValue : memberValue mocks inside written written.name =
      pure (some (.timestamp timestamp (some .timestamp))) := by
    rw [memberValue]
    rfl
  have nextValue : memberValue mocks inside next next.name = pure none := by
    rw [memberValue]
    rfl
  have repliesValue : memberValue mocks inside replies replies.name = pure none := by
    rw [memberValue]
    rfl
  have timeValue (around : Surroundings) : memberValue mocks around time edited.name =
      pure (some (.timestamp timestamp (some .timestamp))) := by
    rw [memberValue]
    rfl
  have editedValue : memberValue mocks inside edited edited.name =
      pure (some (.list timesId [.timestamp timestamp (some .timestamp),
        .timestamp timestamp (some .timestamp)])) := by
    have size : mocks.listSize = 2 := rfl
    rw [memberValue_list editedType timeType, size]
    simp only [listItems, timeValue]
    rfl
  have members : entry.members = [written, next, replies, edited] := rfl
  simp only [members, structureFields]
  rw [writtenValue, nextValue, repliesValue, editedValue]
  rfl

theorem ofStructure_entry : mocks.ofStructure entryId = .ok sample := by
  have resolved : mocks.model.resolveStructure entryId = .ok entry := rfl
  rw [ofStructure_eq, resolved]
  simp only [Except.bind, structureFields_entry]
  rfl

theorem synthesize_entry : mocks.synthesize entryId = .ok (some sample) := by
  have type : mocks.model.classify entryId = .ok (.structure entry entry.members) := rfl
  have rootType : mocks.model.classifyMember (root entryId) =
      .ok (.structure entry entry.members) := rfl
  have sameId : entry.id = entryId := rfl
  rw [synthesize_eq, type]
  simp only [Except.bind, memberValue_eq rootType, ofType, sameId, structureFields_entry]
  rfl

end Journal

end Mocks

end ShapeForge
