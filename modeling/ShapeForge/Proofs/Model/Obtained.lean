import Mathlib.Data.List.TakeDrop
import Mathlib.Data.List.TakeWhile
import ShapeForge.Model.Load
import ShapeForge.Proofs.Model.Reachability

/-!
# Models that documents give

A model is read from a document, merged from other models, or restricted to some namespaces; there
is no other way to one.  Every shape of such a model has a well-formed identifier, and its members
name it as their container.
-/

namespace ShapeForge

/-- A cut is at the first occurrence of the separator. -/
theorem Text.cutAt_eq_some {separator : Char} {text before after : String} :
    Text.cutAt separator text = some (before, after) ↔
      text.toList = before.toList ++ separator :: after.toList ∧ separator ∉ before.toList := by
  unfold Text.cutAt
  rw [List.span_eq_takeWhile_dropWhile]
  constructor
  · intro cut
    cases dropped : text.toList.dropWhile (· != separator) with
    | nil =>
      rw [dropped] at cut
      cases cut
    | cons first rest =>
      rw [dropped] at cut
      cases cut
      have isSeparator : first = separator := by
        have fails := List.head?_dropWhile_not (· != separator) text.toList
        simpa [dropped] using fails
      subst isSeparator
      constructor
      · rw [String.toList_ofList, String.toList_ofList, ← dropped,
          List.takeWhile_append_dropWhile]
      · intro isBefore
        rw [String.toList_ofList] at isBefore
        simpa using List.mem_takeWhile_imp isBefore
  · rintro ⟨kept, unseparated⟩
    have passes : ∀ c ∈ before.toList, (c != separator) = true := by
      intro c isBefore
      rw [bne_iff_ne]
      rintro rfl
      exact unseparated isBefore
    rw [kept, List.takeWhile_append_of_pos passes, List.dropWhile_append_of_pos passes]
    simp

theorem Text.cutAt_append {separator : Char} {text before after : String}
    (cut : Text.cutAt separator text = some (before, after)) (more : String) :
    Text.cutAt separator (text ++ more) = some (before, after ++ more) := by
  rw [Text.cutAt_eq_some] at cut ⊢
  rcases cut with ⟨kept, unseparated⟩
  refine ⟨?_, unseparated⟩
  rw [String.toList_append, String.toList_append, kept]
  simp

/-! ## Well-formed identifiers -/

namespace ShapeId

/-- The text of an identifier is one that is read as an identifier. -/
def WellFormed (id : ShapeId) : Prop :=
  parse id.text = .ok id

variable {id : ShapeId}

theorem text_of_parse {text : String} (read : parse text = .ok id) : id.text = text := by
  unfold parse at read
  grind

theorem wellFormed_of_parse {text : String} (read : parse text = .ok id) : id.WellFormed := by
  rw [WellFormed, text_of_parse read, read]

theorem WellFormed.cut (wellFormed : id.WellFormed) :
    ∃ space rest, Text.cutAt '#' id.text = some (space, rest) ∧
      (Text.split '.' space).all isIdentifier = true ∧
      isIdentifier (nameAndMember rest).1 = true ∧
      (nameAndMember rest).2.all isIdentifier = true := by
  unfold WellFormed parse at wellFormed
  cases cut : Text.cutAt '#' id.text with
  | none => simp [cut] at wellFormed
  | some parts =>
    rcases parts with ⟨space, rest⟩
    refine ⟨space, rest, rfl, ?_⟩
    simp only [cut] at wellFormed
    grind

theorem WellFormed.isIdentifier_name (wellFormed : id.WellFormed) :
    isIdentifier id.name = true := by
  rcases wellFormed.cut with ⟨space, rest, cut, -, isName, -⟩
  rw [name, cut]
  rw [nameAndMember] at isName
  cases part : Text.cutAt '$' rest <;> simpa [part] using isName

/-- A member belongs to the namespace of its shape, whatever its name. -/
theorem WellFormed.nameSpace_withMember (wellFormed : id.WellFormed) (member : String) :
    (id.withMember member).nameSpace = id.nameSpace := by
  rcases wellFormed.cut with ⟨space, rest, cut, -⟩
  have extended := Text.cutAt_append cut ("$" ++ member)
  rw [nameSpace, nameSpace, withMember, String.append_assoc, extended, cut]

end ShapeId

/-! ## Reading shapes -/

/-- The identifier of a shape is well-formed, and its members belong to it. -/
structure Shape.WellPlaced (shape : Shape) : Prop where
  wellFormed : shape.id.WellFormed
  contained : ∀ member ∈ shape.body.parts, member.container = shape.id

namespace Load

open ShapeForge.Document (Value)

variable {source : String} {container id : ShapeId} {value : Value}

/-- What a member is read from, which is not empty: its target and its traits. -/
structure MemberRead (source : String) (container : ShapeId) (name : String) (value : Value)
    (result : Member) : Prop where
  present : Value.present? (some value) = some value
  target : target source (some value) = .ok result.target
  traits : traits source (value.get? "traits") = .ok result.traits
  name : result.name = name
  container : result.container = container

theorem member_eq_ok {name : String} {value : Option Value} {result : Member}
    (read : member source container name value = .ok result) :
    ∃ declared, MemberRead source container name declared result := by
  unfold member at read
  split at read
  · cases read
  case h_2 declared isPresent =>
    rcases bind_eq_ok.mp read with ⟨type, isType, read⟩
    rcases bind_eq_ok.mp read with ⟨attached, areTraits, read⟩
    cases read
    have again : Value.present? (some declared) = some declared := by
      rw [Value.present?, Option.filter_eq_some_iff] at isPresent
      rw [Value.present?, Option.filter_eq_some_iff]
      exact ⟨rfl, isPresent.2⟩
    exact ⟨declared, again, isType, areTraits, rfl, rfl⟩

theorem container_of_member {name : String} {value : Option Value} {result : Member}
    (read : member source container name value = .ok result) :
    result.container = container :=
  (member_eq_ok read).elim fun _ readMember => readMember.container

/-- The fields in which the description of a structure gives its members. -/
def memberFields (value : Value) : List Field :=
  match Value.present? (value.get? "members") with
  | some (.object _ fields) => fields
  | _ => []

theorem membersOfFields_eq_ok {fields : List Field} {result : List Member}
    (read : membersOfFields source container fields = .ok result) :
    List.Forall₂ (fun part field => ShapeId.isIdentifier field.1 = true ∧
      member source container field.1 (some field.2.2) = .ok part) result fields := by
  induction fields generalizing result with
  | nil =>
    cases read
    exact .nil
  | cons field rest ih =>
    rcases field with ⟨key, position, value⟩
    rw [membersOfFields] at read
    split at read
    · cases read
    case isFalse isName =>
      rcases bind_eq_ok.mp read with ⟨first, isFirst, read⟩
      rcases bind_eq_ok.mp read with ⟨others, areOthers, read⟩
      cases read
      exact .cons ⟨by simpa using isName, isFirst⟩ (ih areOthers)

/-- The members of a structure are read field by field, each under an identifier. -/
theorem members_eq_ok {result : List Member}
    (read : members source container (value.get? "members") = .ok result) :
    List.Forall₂ (fun part field => ShapeId.isIdentifier field.1 = true ∧
      member source container field.1 (some field.2.2) = .ok part) result (memberFields value) := by
  unfold members at read
  unfold memberFields
  split at read
  case h_1 absent =>
    cases read
    rw [absent]
    exact .nil
  case h_2 isPresent =>
    rw [isPresent]
    exact membersOfFields_eq_ok read
  case h_3 => cases read

theorem container_of_body {type : String} {result : ShapeBody}
    (read : body source container type value = .ok result) :
    ∀ member ∈ result.parts, member.container = container := by
  unfold body at read
  split at read
  · cases read
    simp [ShapeBody.parts]
  · split at read
    case h_3 | h_4 =>
      rcases bind_eq_ok.mp read with ⟨item, isItem, read⟩
      cases read
      simpa [ShapeBody.parts] using container_of_member isItem
    case h_5 =>
      rcases bind_eq_ok.mp read with ⟨key, isKey, read⟩
      rcases bind_eq_ok.mp read with ⟨content, isContent, read⟩
      cases read
      simp [ShapeBody.parts, container_of_member isKey, container_of_member isContent]
    case h_6 =>
      rcases bind_eq_ok.mp read with ⟨declared, areMembers, read⟩
      cases read
      intro part isPart
      rcases exists_partner (members_eq_ok areMembers) part isPart with ⟨field, -, -, readPart⟩
      exact container_of_member readPart
    case h_10 => cases read
    all_goals
      rcases bind_eq_ok.mp read with ⟨content, -, read⟩
      cases read
      simp [ShapeBody.parts]

/-- What a shape is read from: its traits and, by its type, its body. -/
theorem shape_eq_ok {result : Shape} (read : shape source id value = .ok result) :
    result.id = id ∧ traits source (value.get? "traits") = .ok result.traits ∧
      ∃ type, (value.get? "type").bind Value.str? = some type ∧
        body source id type value = .ok result.body := by
  unfold shape at read
  by_cases isObject : value.kind != .object
  · rw [if_pos isObject] at read
    cases read
  · rw [if_neg isObject] at read
    split at read
    · cases read
    case h_2 type isType =>
      rcases bind_eq_ok.mp read with ⟨attached, areTraits, read⟩
      rcases bind_eq_ok.mp read with ⟨content, isBody, read⟩
      cases read
      exact ⟨rfl, areTraits, type, isType, isBody⟩

theorem parse_of_identifier {position : Yaml.Position} {text : String}
    (read : identifier source position text = .ok id) :
    ShapeId.parse text = .ok id := by
  unfold identifier at read
  split at read
  case h_1 parsed =>
    cases read
    exact parsed
  case h_2 => cases read

theorem wellFormed_of_identifier {position : Yaml.Position} {text : String}
    (read : identifier source position text = .ok id) :
    id.WellFormed :=
  ShapeId.wellFormed_of_parse (parse_of_identifier read)

end Load

/-! ## Shapes of a model -/

namespace Model

theorem addAll_eq_ok {present more result : List Shape} (added : addAll present more = .ok result) :
    result = present ++ more := by
  induction more generalizing present with
  | nil =>
    cases added
    simp
  | cons shape rest ih =>
    rw [addAll] at added
    split at added
    · cases added
    · rw [ih added, List.append_assoc, List.singleton_append]

theorem shapes_merge {model result : Model} {others : List Model}
    (merged : model.merge others = .ok result) :
    result.shapes = model.shapes ++ others.flatMap (·.shapes) := by
  rcases bind_eq_ok.mp merged with ⟨shapes, added, same⟩
  cases same
  simpa using addAll_eq_ok added

end Model

namespace Load

open ShapeForge.Document (Value)

variable {source : String} {root : Value} {result : Model}

/-- A shape was read from a field whose key is its identifier. -/
structure ReadFrom (source : String) (field : Field) (result : Shape) : Prop where
  key : result.id.text = field.1
  id : result.id.WellFormed
  whole : result.id.member = ""
  shape : shape source result.id field.2.2 = .ok result

theorem readFrom_of_shapesOfFields {fields : List Field} {loaded result : List Shape}
    (read : shapesOfFields source loaded fields = .ok result) :
    ∃ shapes, result = loaded ++ shapes ∧ List.Forall₂ (ReadFrom source) fields shapes := by
  induction fields generalizing loaded with
  | nil =>
    cases read
    exact ⟨[], by rw [List.append_nil], .nil⟩
  | cons field rest ih =>
    rcases field with ⟨key, position, value⟩
    rw [shapesOfFields] at read
    rcases bind_eq_ok.mp read with ⟨id, isId, read⟩
    by_cases named : !id.member.isEmpty
    · rw [if_pos named] at read
      cases read
    · rw [if_neg named] at read
      rcases bind_eq_ok.mp read with ⟨next, isShape, read⟩
      rcases bind_eq_ok.mp read with ⟨more, added, read⟩
      rw [Model.addAll_eq_ok added] at read
      rcases ih read with ⟨shapes, rfl, areShapes⟩
      have same : next.id = id := (shape_eq_ok isShape).1
      subst same
      refine ⟨next :: shapes, by rw [List.append_assoc]; rfl, .cons ?_ areShapes⟩
      exact {
        key := ShapeId.text_of_parse (parse_of_identifier isId)
        id := wellFormed_of_identifier isId
        whole := by simpa using named
        shape := isShape }

theorem ReadFrom.wellPlaced {field : Field} {result : Shape}
    (readFrom : ReadFrom source field result) :
    result.WellPlaced := by
  rcases shape_eq_ok readFrom.shape with ⟨-, -, type, -, isBody⟩
  exact ⟨readFrom.id, container_of_body isBody⟩

/-- The fields in which a document gives its shapes. -/
def shapeFields (root : Value) : List Field :=
  match Value.present? (root.get? "shapes") with
  | some (.object _ fields) => fields
  | _ => []

theorem shapesOfFields_of_model (read : model source root = .ok result) :
    shapesOfFields source [] (shapeFields root) = .ok result.shapes := by
  unfold model at read
  unfold shapeFields
  by_cases isObject : root.kind != .object
  · rw [if_pos isObject] at read
    cases read
  · rw [if_neg isObject] at read
    split at read
    case h_1 absent =>
      cases read
      rw [absent]
      rfl
    case h_2 position fields isPresent =>
      rcases bind_eq_ok.mp read with ⟨shapes, areShapes, read⟩
      cases read
      rw [isPresent]
      exact areShapes
    case h_3 => cases read

theorem readFrom_of_model (read : model source root = .ok result) :
    List.Forall₂ (ReadFrom source) (shapeFields root) result.shapes := by
  rcases readFrom_of_shapesOfFields (shapesOfFields_of_model read) with ⟨shapes, same, areShapes⟩
  rwa [same]

/-- What holds of every shape that a field gives holds of every shape of a document. -/
theorem forall_shapes_of_model {property : Shape → Prop}
    (ofField : ∀ field shape, ReadFrom source field shape → property shape)
    (read : model source root = .ok result) :
    ∀ shape ∈ result.shapes, property shape := by
  intro shape isShape
  rcases exists_partner (readFrom_of_model read).flip shape isShape with ⟨field, -, readShape⟩
  exact ofField field shape readShape

end Load

namespace Model

/-- The models that come from documents. -/
inductive Obtained : Model → Prop where
  | loaded {source root model}
      (read : Load.model source root = .ok model) :
      Obtained model
  | merged {model others result}
      (base : Obtained model)
      (added : ∀ other ∈ others, Obtained other)
      (merged : model.merge others = .ok result) :
      Obtained result
  | restricted {model}
      (base : Obtained model) (spaces : List String) :
      Obtained (model.only spaces)

/-- What loading establishes about each shape is kept by merging and restricting. -/
theorem Obtained.forall_shapes {property : Shape → Prop}
    (ofLoaded : ∀ source root model, Load.model source root = .ok model →
      ∀ shape ∈ model.shapes, property shape)
    {model : Model}
    (obtained : model.Obtained) :
    ∀ shape ∈ model.shapes, property shape := by
  induction obtained with
  | loaded read => exact ofLoaded _ _ _ read
  | merged _ _ merged baseIH addedIH =>
    intro shape isShape
    rw [shapes_merge merged] at isShape
    rcases List.mem_append.mp isShape with isBase | isAdded
    · exact baseIH shape isBase
    · rcases List.mem_flatMap.mp isAdded with ⟨other, isOther, isShape⟩
      exact addedIH other isOther shape isShape
  | restricted _ _ ih =>
    intro shape isShape
    exact ih shape (List.mem_filter.mp isShape).1

theorem Obtained.wellPlaced {model : Model} (obtained : model.Obtained) :
    ∀ shape ∈ model.shapes, shape.WellPlaced :=
  obtained.forall_shapes fun _ _ _ =>
    Load.forall_shapes_of_model fun _ _ => Load.ReadFrom.wellPlaced

end Model

/-! Documents to read models from, with everything on their first line. -/

namespace Document.Value

def plainText (text : String) : Value :=
  .string { line := 1, column := 1 } text

def plainObject (fields : List (String × Value)) : Value :=
  .object { line := 1, column := 1 }
    (fields.map fun (key, value) => (key, { line := 1, column := 1 }, value))

def plainReference (target : String) : Value :=
  .plainObject [("target", .plainText target)]

def plainArray (items : List Value) : Value :=
  .array { line := 1, column := 1 } items

end Document.Value

end ShapeForge
