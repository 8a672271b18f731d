import ShapeForge.Proofs.Model.Merging
import ShapeForge.Proofs.Naming.Exported

/-!
# The identifiers of a loaded model

A model that a document gives holds well-formed identifiers only, wherever it holds any: those of
its shapes, which are the keys of the document, those of traits and those of members and targets.
Where a reference may be left out, the empty identifier stands for it.
-/

namespace ShapeForge

theorem Text.cutAt_eq_none {separator : Char} {text : String} (absent : separator ∉ text.toList) :
    Text.cutAt separator text = none := by
  cases cut : Text.cutAt separator text with
  | none => rfl
  | some parts =>
    rcases Text.cutAt_eq_some.mp cut with ⟨chars, -⟩
    rw [chars] at absent
    simp at absent

theorem Text.cutAt_mark {separator : Char} {before : String}
    (absent : separator ∉ before.toList) (after : String) :
    Text.cutAt separator (before ++ String.singleton separator ++ after) =
      some (before, after) := by
  rw [Text.cutAt_eq_some]
  refine ⟨?_, absent⟩
  simp

namespace ShapeId

/-! ## The parts of an identifier -/

/-- What follows the namespace: a name, and a member behind it if there is one. -/
def joined (name : String) : Option String → String
  | none => name
  | some member => name ++ "$" ++ member

/-- The text of an identifier, part by part. -/
structure Parts (id : ShapeId) (space name : String) (member : Option String) : Prop where
  text : id.text = space ++ "#" ++ joined name member
  isSpace : (Text.split '.' space).all isIdentifier = true
  isName : isIdentifier name = true
  isMember : member.all isIdentifier = true

section Parts

variable {id : ShapeId} {space name : String} {member : Option String}

theorem parts_of_wellFormed (wellFormed : id.WellFormed) :
    ∃ space name member, id.Parts space name member := by
  rcases wellFormed.cut with ⟨space, rest, cut, isSpace, isName, isMember⟩
  have whole : joined (nameAndMember rest).1 (nameAndMember rest).2 = rest := by
    unfold nameAndMember
    cases inner : Text.cutAt '$' rest with
    | none => rfl
    | some pair =>
      rw [← String.toList_inj]
      simp [joined, (Text.cutAt_eq_some.mp inner).1]
  refine ⟨space, _, _, ?_, isSpace, isName, isMember⟩
  rw [whole, ← String.toList_inj]
  simp [(Text.cutAt_eq_some.mp cut).1]

theorem Parts.not_mem_space (parts : id.Parts space name member)
    {c : Char} (noChar : isIdentifierChar c = false) (noDot : c ≠ '.') :
    c ∉ space.toList :=
  Naming.not_mem_of_split parts.isSpace noChar noDot

theorem Parts.not_mem_name (parts : id.Parts space name member)
    {c : Char} (noChar : isIdentifierChar c = false) :
    c ∉ name.toList :=
  Naming.not_mem_of_isIdentifier parts.isName noChar

theorem Parts.cut_space (parts : id.Parts space name member) :
    Text.cutAt '#' id.text = some (space, joined name member) := by
  rw [parts.text]
  exact Text.cutAt_mark (parts.not_mem_space (by decide) (by decide)) _

theorem Parts.cut_name (parts : id.Parts space name member) :
    Text.cutAt '$' (joined name member) = member.map (name, ·) := by
  have absent : '$' ∉ name.toList := parts.not_mem_name (by decide)
  cases member with
  | none => exact Text.cutAt_eq_none absent
  | some member => exact Text.cutAt_mark absent member

theorem Parts.nameSpace_eq (parts : id.Parts space name member) : id.nameSpace = space := by
  rw [nameSpace, parts.cut_space]

theorem Parts.name_eq (parts : id.Parts space name member) : id.name = name := by
  rw [ShapeId.name, parts.cut_space]
  simp only [parts.cut_name]
  cases member <;> rfl

theorem Parts.member_eq (parts : id.Parts space name member) : id.member = member.getD "" := by
  -- The mark is looked for in the whole text, the namespace included.
  have absent : '$' ∉ (space ++ "#" ++ name).toList := by
    have noSpace : '$' ∉ space.toList := parts.not_mem_space (by decide) (by decide)
    have noName : '$' ∉ name.toList := parts.not_mem_name (by decide)
    simp [noSpace, noName]
  rw [ShapeId.member, parts.text]
  cases member with
  | none => rw [joined, Text.cutAt_eq_none absent, Option.getD_none]
  | some member =>
    have cut : Text.cutAt '$' (space ++ "#" ++ name ++ "$" ++ member) =
        some (space ++ "#" ++ name, member) :=
      Text.cutAt_mark absent member
    rw [joined, ← String.append_assoc, ← String.append_assoc, cut, Option.getD_some]

theorem not_isEmpty_of_isIdentifier {text : String} (isText : isIdentifier text = true) :
    text.isEmpty = false := by
  rw [← Bool.not_eq_true, String.isEmpty_iff]
  rintro rfl
  cases isText

theorem Parts.wellFormed (parts : id.Parts space name member) : id.WellFormed := by
  have named : nameAndMember (joined name member) = (name, member) := by
    rw [nameAndMember, parts.cut_name]
    cases member <;> rfl
  have noSpace : space.isEmpty = false := by
    rw [← Bool.not_eq_true, String.isEmpty_iff]
    rintro rfl
    cases parts.isSpace
  have noName : name.isEmpty = false := not_isEmpty_of_isIdentifier parts.isName
  have noMember : member.any (·.isEmpty) = false := by
    have isMember := parts.isMember
    cases member with
    | none => rfl
    | some member => exact not_isEmpty_of_isIdentifier isMember
  have noRest : (joined name member).isEmpty = false := by
    cases member <;> simp_all [joined]
  have noHash : '#' ∉ (joined name member).toList := by
    have absent : '#' ∉ name.toList := parts.not_mem_name (by decide)
    have isMember := parts.isMember
    cases member with
    | none => simpa [joined] using absent
    | some member =>
      have absentToo : '#' ∉ member.toList :=
        Naming.not_mem_of_isIdentifier isMember (by decide)
      simp [joined, absent, absentToo]
  rw [WellFormed, parse, parts.cut_space]
  simp [named, noSpace, noName, noMember, noRest, noHash, parts.isSpace, parts.isName,
    parts.isMember]

theorem parts_whole (wellFormed : id.WellFormed) (whole : id.member = "") :
    ∃ space name, id.Parts space name none := by
  rcases parts_of_wellFormed wellFormed with ⟨space, name, member, parts⟩
  cases member with
  | none => exact ⟨space, name, parts⟩
  | some member =>
    have noMember := not_isEmpty_of_isIdentifier parts.isMember
    rw [parts.member_eq, Option.getD_some] at whole
    rw [whole] at noMember
    cases noMember

theorem ascii_member (wellFormed : id.WellFormed) : ∀ c ∈ id.member.toList, c.toNat < 128 := by
  rcases parts_of_wellFormed wellFormed with ⟨space, name, member, parts⟩
  have isMember := parts.isMember
  rw [parts.member_eq]
  cases member with
  | none => simp
  | some member => exact Naming.ascii_of_isIdentifier isMember

theorem Parts.withMember (parts : id.Parts space name none)
    {member : String} (isMember : isIdentifier member = true) :
    (id.withMember member).Parts space name (some member) where
  text := by rw [ShapeId.withMember, parts.text, joined, joined, String.append_assoc,
    String.append_assoc, String.append_assoc, String.append_assoc, String.append_assoc]
  isSpace := parts.isSpace
  isName := parts.isName
  isMember := isMember

end Parts

/-- The identifier that a reference gives: a well-formed one, or the empty one where the reference
is left out. -/
def Referenced (id : ShapeId) : Prop :=
  id.WellFormed ∨ id = .empty

end ShapeId

/-! ## Well-named shapes -/

def Traits.WellNamed (traits : Traits) : Prop :=
  ∀ trait ∈ traits, trait.id.WellFormed

/-- What the identifiers of a member say: its own is that of its container with its name, and that
of its type is not left out. -/
structure Member.WellNamed (declared : Member) (container : ShapeId) : Prop where
  id : declared.id.WellFormed
  nameSpace : declared.id.nameSpace = container.nameSpace
  name : declared.id.name = container.name
  member : declared.id.member = declared.name
  target : declared.target.WellFormed
  given : declared.target ≠ .empty
  primitive : declared.isPrimitive = true ↔ declared.target.nameSpace = "smithy.api"
  traits : declared.traits.WellNamed

/-- All identifiers that the body of a shape holds are well-formed; those of references that may be
left out can be empty. -/
def ShapeBody.WellNamed (container : ShapeId) : ShapeBody → Prop
  | .simple _ => True
  | .enumeration _ members => ∀ member ∈ members, member.traits.WellNamed
  | .list item => item.WellNamed container
  | .map key value => key.WellNamed container ∧ value.WellNamed container
  | .structure members => ∀ member ∈ members, member.WellNamed container
  | .operation parts =>
    parts.input.Referenced ∧ parts.output.Referenced ∧ ∀ id ∈ parts.errors, id.Referenced
  | .resource parts =>
    (∀ identifier ∈ parts.identifiers, identifier.2.Referenced) ∧
      (∀ id ∈ [parts.create, parts.put, parts.read, parts.update, parts.delete, parts.list],
        id.Referenced) ∧
      (∀ id ∈ parts.operations, id.Referenced) ∧
      (∀ id ∈ parts.collectionOperations, id.Referenced) ∧
      ∀ id ∈ parts.resources, id.Referenced
  | .service parts =>
    (∀ id ∈ parts.operations, id.Referenced) ∧
      (∀ id ∈ parts.resources, id.Referenced) ∧
      ∀ id ∈ parts.errors, id.Referenced

/-- All identifiers that a shape holds are well-formed, and its own names no member. -/
structure Shape.WellNamed (shape : Shape) : Prop where
  id : shape.id.WellFormed
  whole : shape.id.member = ""
  traits : shape.traits.WellNamed
  body : shape.body.WellNamed shape.id

/-! ## Reading shapes -/

namespace Load

open ShapeForge.Document (Value)

variable {source : String} {container : ShapeId}

theorem wellNamed_of_traitsOfFields {fields : List Field} {result : Traits}
    (read : traitsOfFields source fields = .ok result) :
    result.WellNamed := by
  induction fields generalizing result with
  | nil =>
    cases read
    exact fun _ isTrait => nomatch isTrait
  | cons field rest ih =>
    rcases field with ⟨key, position, value⟩
    rw [traitsOfFields] at read
    rcases bind_eq_ok.mp read with ⟨id, isId, read⟩
    rcases bind_eq_ok.mp read with ⟨others, areOthers, read⟩
    cases read
    exact List.forall_mem_cons.mpr ⟨wellFormed_of_identifier isId, ih areOthers⟩

variable {value : Option Value}

theorem wellNamed_of_traits {result : Traits} (read : traits source value = .ok result) :
    result.WellNamed := by
  unfold traits at read
  split at read
  · cases read
    exact fun _ isTrait => nomatch isTrait
  · exact wellNamed_of_traitsOfFields read
  · cases read

/-- Only a reference that is not there gives the empty identifier. -/
theorem referenced_of_target {result : ShapeId} (read : target source value = .ok result) :
    result.WellFormed ∨ (Value.present? value = none ∧ result = .empty) := by
  unfold target at read
  split at read
  case h_1 absent =>
    cases read
    exact Or.inr ⟨absent, rfl⟩
  case h_2 =>
    split at read
    · cases read
    · exact Or.inl (wellFormed_of_identifier read)

theorem referenced_of_optional {result : ShapeId} (read : target source value = .ok result) :
    result.Referenced :=
  (referenced_of_target read).imp_right And.right

theorem referenced_of_targetsOfItems {items : List Value} {result : List ShapeId}
    (read : targetsOfItems source items = .ok result) :
    ∀ id ∈ result, id.Referenced := by
  induction items generalizing result with
  | nil =>
    cases read
    simp
  | cons item rest ih =>
    rw [targetsOfItems] at read
    rcases bind_eq_ok.mp read with ⟨id, isId, read⟩
    rcases bind_eq_ok.mp read with ⟨others, areOthers, read⟩
    cases read
    exact List.forall_mem_cons.mpr ⟨referenced_of_optional isId, ih areOthers⟩

theorem referenced_of_targets {result : List ShapeId} (read : targets source value = .ok result) :
    ∀ id ∈ result, id.Referenced := by
  unfold targets at read
  split at read
  · cases read
    simp
  · exact referenced_of_targetsOfItems read
  · cases read

section Members

variable
    (wellFormed : container.WellFormed)
    (whole : container.member = "")

include wellFormed whole

theorem wellNamed_of_member {name : String} {value : Option Value} {result : Member}
    (isName : ShapeId.isIdentifier name = true)
    (read : member source container name value = .ok result) :
    result.WellNamed container := by
  rcases member_eq_ok read with ⟨declared, readMember⟩
  rcases result with ⟨_, _, type, attached, line⟩
  rcases readMember with ⟨present, isType, areTraits, rfl, rfl⟩
  have target : type.WellFormed := by
    rcases referenced_of_target isType with target | ⟨absent, -⟩
    · exact target
    · cases present.symm.trans absent
  rcases ShapeId.parts_whole wellFormed whole with ⟨space, containerName, parts⟩
  have extended := parts.withMember isName
  exact {
    id := extended.wellFormed
    nameSpace := by
      rw [parts.nameSpace_eq]
      exact extended.nameSpace_eq
    name := by
      rw [parts.name_eq]
      exact extended.name_eq
    member := extended.member_eq
    target
    given := by
      rintro rfl
      cases target
    primitive := beq_iff_eq
    traits := wellNamed_of_traits areTraits }

theorem wellNamed_of_members {value : Value} {result : List Member}
    (read : members source container (value.get? "members") = .ok result) :
    ∀ member ∈ result, member.WellNamed container := by
  intro part isPart
  rcases exists_partner (members_eq_ok read) part isPart with ⟨field, -, isName, readPart⟩
  exact wellNamed_of_member wellFormed whole isName readPart

end Members

variable {value : Value} {fields : List Field}

theorem wellNamed_of_enumMember {numeric : Bool} {index : Nat} {key : String} {result : EnumMember}
    (read : enumMember source container numeric index key value = .ok result) :
    result.traits.WellNamed := by
  unfold enumMember at read
  rcases bind_eq_ok.mp read with ⟨attached, areTraits, read⟩
  have wellNamed := wellNamed_of_traits areTraits
  simp only at read
  split at read
  · cases read
    exact wellNamed
  · split at read
    · split at read
      · cases read
        exact wellNamed
      · cases read
    · cases read
      exact wellNamed

theorem wellNamed_of_enumMembersOfFields {numeric : Bool} {index : Nat} {result : List EnumMember}
    (read : enumMembersOfFields source container numeric index fields = .ok result) :
    ∀ member ∈ result, member.traits.WellNamed := by
  induction fields generalizing index result with
  | nil =>
    cases read
    simp
  | cons field rest ih =>
    rcases field with ⟨key, position, value⟩
    rw [enumMembersOfFields] at read
    rcases bind_eq_ok.mp read with ⟨first, isFirst, read⟩
    rcases bind_eq_ok.mp read with ⟨others, areOthers, read⟩
    cases read
    exact List.forall_mem_cons.mpr ⟨wellNamed_of_enumMember isFirst, ih areOthers⟩

theorem wellNamed_of_enumMembers {numeric : Bool} {value : Option Value} {result : List EnumMember}
    (read : enumMembers source container numeric value = .ok result) :
    ∀ member ∈ result, member.traits.WellNamed := by
  unfold enumMembers at read
  split at read
  · cases read
    simp
  · exact wellNamed_of_enumMembersOfFields read
  · cases read

theorem referenced_of_identifiersOfFields {result : List (String × ShapeId)}
    (read : identifiersOfFields source fields = .ok result) :
    ∀ identifier ∈ result, identifier.2.Referenced := by
  induction fields generalizing result with
  | nil =>
    cases read
    simp
  | cons field rest ih =>
    rcases field with ⟨key, position, value⟩
    rw [identifiersOfFields] at read
    rcases bind_eq_ok.mp read with ⟨type, isType, read⟩
    rcases bind_eq_ok.mp read with ⟨others, areOthers, read⟩
    cases read
    exact List.forall_mem_cons.mpr ⟨referenced_of_optional isType, ih areOthers⟩

theorem referenced_of_identifiers {value : Option Value} {result : List (String × ShapeId)}
    (read : identifiers source container value = .ok result) :
    ∀ identifier ∈ result, identifier.2.Referenced := by
  unfold identifiers at read
  split at read
  · cases read
    simp
  · exact referenced_of_identifiersOfFields read
  · cases read

theorem wellNamed_of_resource {result : Resource}
    (read : resource source container value = .ok result) :
    (ShapeBody.resource result).WellNamed container := by
  unfold resource at read
  rcases bind_eq_ok.mp read with ⟨identifiers, areIdentifiers, read⟩
  rcases bind_eq_ok.mp read with ⟨create, isCreate, read⟩
  rcases bind_eq_ok.mp read with ⟨put, isPut, read⟩
  rcases bind_eq_ok.mp read with ⟨get, isGet, read⟩
  rcases bind_eq_ok.mp read with ⟨update, isUpdate, read⟩
  rcases bind_eq_ok.mp read with ⟨delete, isDelete, read⟩
  rcases bind_eq_ok.mp read with ⟨list, isList, read⟩
  rcases bind_eq_ok.mp read with ⟨operations, areOperations, read⟩
  rcases bind_eq_ok.mp read with ⟨collectionOperations, areCollected, read⟩
  rcases bind_eq_ok.mp read with ⟨resources, areResources, read⟩
  cases read
  refine ⟨referenced_of_identifiers areIdentifiers, ?_, referenced_of_targets areOperations,
    referenced_of_targets areCollected, referenced_of_targets areResources⟩
  simp [referenced_of_optional isCreate, referenced_of_optional isPut,
    referenced_of_optional isGet, referenced_of_optional isUpdate,
    referenced_of_optional isDelete, referenced_of_optional isList]

theorem wellNamed_of_operation {result : Operation} (read : operation source value = .ok result) :
    (ShapeBody.operation result).WellNamed container := by
  unfold operation at read
  rcases bind_eq_ok.mp read with ⟨input, isInput, read⟩
  rcases bind_eq_ok.mp read with ⟨output, isOutput, read⟩
  rcases bind_eq_ok.mp read with ⟨errors, areErrors, read⟩
  cases read
  exact ⟨referenced_of_optional isInput, referenced_of_optional isOutput,
    referenced_of_targets areErrors⟩

theorem wellNamed_of_service {result : Service} (read : service source value = .ok result) :
    (ShapeBody.service result).WellNamed container := by
  unfold service at read
  rcases bind_eq_ok.mp read with ⟨operations, areOperations, read⟩
  rcases bind_eq_ok.mp read with ⟨resources, areResources, read⟩
  rcases bind_eq_ok.mp read with ⟨errors, areErrors, read⟩
  cases read
  exact ⟨referenced_of_targets areOperations, referenced_of_targets areResources,
    referenced_of_targets areErrors⟩

theorem wellNamed_of_body {type : String} {result : ShapeBody} (wellFormed : container.WellFormed)
    (whole : container.member = "") (read : body source container type value = .ok result) :
    result.WellNamed container := by
  unfold body at read
  split at read
  · cases read
    exact True.intro
  · split at read
    case h_1 | h_2 =>
      rcases bind_eq_ok.mp read with ⟨members, areMembers, read⟩
      cases read
      exact wellNamed_of_enumMembers areMembers
    case h_3 | h_4 =>
      rcases bind_eq_ok.mp read with ⟨item, isItem, read⟩
      cases read
      exact wellNamed_of_member wellFormed whole (by decide) isItem
    case h_5 =>
      rcases bind_eq_ok.mp read with ⟨key, isKey, read⟩
      rcases bind_eq_ok.mp read with ⟨content, isContent, read⟩
      cases read
      exact ⟨wellNamed_of_member wellFormed whole (by decide) isKey,
        wellNamed_of_member wellFormed whole (by decide) isContent⟩
    case h_6 =>
      rcases bind_eq_ok.mp read with ⟨members, areMembers, read⟩
      cases read
      exact wellNamed_of_members wellFormed whole areMembers
    case h_7 =>
      rcases bind_eq_ok.mp read with ⟨operation, isOperation, read⟩
      cases read
      exact wellNamed_of_operation isOperation
    case h_8 =>
      rcases bind_eq_ok.mp read with ⟨resource, isResource, read⟩
      cases read
      exact wellNamed_of_resource isResource
    case h_9 =>
      rcases bind_eq_ok.mp read with ⟨service, isService, read⟩
      cases read
      exact wellNamed_of_service isService
    case h_10 => cases read

/-! ## Reading models -/

theorem ReadFrom.wellNamed {field : Field} {result : Shape}
    (readFrom : ReadFrom source field result) :
    result.WellNamed := by
  rcases shape_eq_ok readFrom.shape with ⟨-, areTraits, type, -, isBody⟩
  exact ⟨readFrom.id, readFrom.whole, wellNamed_of_traits areTraits,
    wellNamed_of_body readFrom.id readFrom.whole isBody⟩

theorem keys_of_readFrom {shapes : List Shape}
    (readFrom : List.Forall₂ (ReadFrom source) fields shapes) :
    shapes.map (·.id.text) = fields.map (·.1) := by
  induction readFrom with
  | nil => rfl
  | cons first _ ih => rw [List.map_cons, List.map_cons, first.key, ih]

theorem wellNamed_of_model {root : Value} {result : Model} (read : model source root = .ok result) :
    ∀ shape ∈ result.shapes, shape.WellNamed :=
  forall_shapes_of_model (fun _ _ => ReadFrom.wellNamed) read

/-- The identifiers of a model that a document gives: those of its shapes are the keys of the
document, in order and without repetition, and all others that it holds are well-formed where they
are not left out. -/
theorem identifiers_wellFormed
    {root : Value} {result : Model}
    (read : model source root = .ok result) :
    result.ids.map (·.text) = (shapeFields root).map (·.1) ∧
      ((shapeFields root).map (·.1)).Nodup ∧
      ∀ shape ∈ result.shapes, shape.WellNamed := by
  have keys : result.ids.map (·.text) = (shapeFields root).map (·.1) := by
    rw [Model.ids, List.map_map]
    exact keys_of_readFrom (readFrom_of_model read)
  have distinct : result.ids.Nodup := (Model.Obtained.loaded read).nodup_ids
  refine ⟨keys, ?_, wellNamed_of_model read⟩
  rw [← keys]
  refine distinct.map ?_
  rintro ⟨first⟩ ⟨second⟩ rfl
  rfl

/-! A depot whose only operation takes nothing, and whose service lists a reference that is left
out. -/

namespace Depot

def absent : Value :=
  .null { line := 1, column := 1 } "null"

def document : Value :=
  .plainObject [("smithy", .plainText "2.0"), ("shapes", .plainObject
    [("depot#Crate", .plainObject [("type", .plainText "structure"),
        ("members", .plainObject
          [("label", .plainObject [("target", .plainText "smithy.api#String"),
              ("traits", .plainObject [("smithy.api#required", .plainObject [])])]),
            ("parts", .plainReference "depot#Crates")])]),
      ("depot#Crates", .plainObject [("type", .plainText "list"),
        ("member", .plainReference "depot#Crate")]),
      ("depot#Ship", .plainObject [("type", .plainText "operation"),
        ("output", .plainReference "depot#Crate")]),
      ("depot#Depot", .plainObject [("type", .plainText "service"),
        ("operations", .plainArray [.plainReference "depot#Ship", absent])])])]

def label : Member where
  name := "label"
  container := ⟨"depot#Crate"⟩
  target := ⟨"smithy.api#String"⟩
  traits := [⟨⟨"smithy.api#required"⟩, "\x7b\x7d"⟩]
  line := 1

def crate : Shape where
  id := ⟨"depot#Crate"⟩
  line := 1
  body := .structure
    [label, { name := "parts", container := ⟨"depot#Crate"⟩, target := ⟨"depot#Crates"⟩, line := 1 }]

def crates : Shape where
  id := ⟨"depot#Crates"⟩
  line := 1
  body := .list
    { name := "member", container := ⟨"depot#Crates"⟩, target := ⟨"depot#Crate"⟩, line := 1 }

def ship : Shape where
  id := ⟨"depot#Ship"⟩
  line := 1
  body := .operation { output := ⟨"depot#Crate"⟩ }

def service : Service where
  operations := [⟨"depot#Ship"⟩, .empty]

def serviceShape : Shape where
  id := ⟨"depot#Depot"⟩
  line := 1
  body := .service service

def shapes : Model where
  version := "2.0"
  shapes := [crate, crates, ship, serviceShape]

end Depot

open Depot in
theorem identifiers_wellFormed_depot :
    model "depot.json" document = .ok shapes ∧
      shapes.ids.map (·.text) = ["depot#Crate", "depot#Crates", "depot#Ship", "depot#Depot"] ∧
      label.WellNamed crate.id ∧
      ∀ id ∈ Depot.service.operations, id.Referenced := by
  have read : model "depot.json" document = .ok shapes := rfl
  rcases identifiers_wellFormed read with ⟨keys, -, wellNamed⟩
  refine ⟨read, keys, ?_, ?_⟩
  · exact (wellNamed crate (by decide)).body label (by decide)
  · exact (wellNamed serviceShape (by decide)).body.1

end Load

namespace Model

theorem Obtained.wellNamed {model : Model} (obtained : model.Obtained) :
    ∀ shape ∈ model.shapes, shape.WellNamed :=
  obtained.forall_shapes fun _ _ _ read => Load.wellNamed_of_model read

end Model

end ShapeForge
