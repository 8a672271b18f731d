import Mathlib.Data.List.Perm.Basic
import ShapeForge.Emit.Generate
import ShapeForge.Proofs.Model.Obtained
import ShapeForge.Proofs.Text.Order

/-!
# Dangling references of a merged model

A reference dangles when its target is not defined.  Merging two models keeps all their references
in order and joins what they define, so the dangling references of the merged model are those of
each part that the other part does not resolve.  `danglingIn` then hands every one of them to the
namespace of the shape that holds it.
-/

namespace ShapeForge

/-- The failures that a check reports, one by one. -/
def Fault.reported : Except Fault Unit → List Fault
  | .ok () => []
  | .error (.several faults) => faults
  | .error fault => [fault]

namespace Model

/-- The dangling references of a model that one of its shapes holds. -/
def danglingOf (model : Model) (shape : Shape) : List Reference :=
  shape.references.filter fun reference => !model.accepts reference.target

theorem dangling_eq (model : Model) : model.dangling = model.shapes.flatMap model.danglingOf := by
  rw [dangling, references, List.filter_flatMap]
  rfl

theorem reported_check (model : Model) :
    Fault.reported model.check = model.dangling.map Reference.fault := by
  unfold check
  cases model.dangling with
  | nil => rfl
  | cons first rest => rfl

theorem check_eq_ok {model : Model} : model.check = .ok () ↔ model.dangling = [] := by
  unfold check
  cases model.dangling with
  | nil => simp [Fault.join]
  | cons first rest => simp [Fault.join]

/-! ## Merging -/

section Merge

variable {model other result : Model}

theorem defines_merge (merged : model.merge [other] = .ok result) (id : ShapeId) :
    result.defines id = (model.defines id || other.defines id) := by
  have shapes : result.shapes = model.shapes ++ other.shapes := by
    simpa using shapes_merge merged
  rw [defines, defines, defines, lookup?, lookup?, lookup?, shapes, List.find?_append,
    Option.isSome_or]

theorem accepts_merge (merged : model.merge [other] = .ok result) (target : ShapeId) :
    result.accepts target = (model.accepts target || other.accepts target) := by
  rw [accepts, accepts, accepts, defines_merge merged]
  grind

/-- A reference that already dangles needs a definition, and the other model either has it or
does not: the rest of what `accepts` allows does not depend on the model. -/
theorem accepts_of_not_accepts {target : ShapeId}
    (dangles : model.accepts target = false) (other : Model) :
    other.accepts target = other.defines target := by
  unfold accepts at dangles ⊢
  grind

theorem filter_merged (references : List Reference) :
    (references.filter fun reference =>
        !(model.accepts reference.target || other.accepts reference.target)) =
      (references.filter fun reference => !model.accepts reference.target).filter
        fun reference => !other.defines reference.target := by
  rw [List.filter_filter]
  apply List.filter_congr
  intro reference _
  cases accepted : model.accepts reference.target with
  | true => simp
  | false => simp [accepts_of_not_accepts accepted other]

theorem dangling_merge (merged : model.merge [other] = .ok result) :
    result.dangling =
      (model.dangling.filter fun reference => !other.defines reference.target) ++
        other.dangling.filter fun reference => !model.defines reference.target := by
  have references : result.references = model.references ++ other.references := by
    rw [Model.references, shapes_merge merged]
    simp [Model.references]
  have flipped (reference : Reference) :
      (model.accepts reference.target || other.accepts reference.target) =
        (other.accepts reference.target || model.accepts reference.target) :=
    Bool.or_comm _ _
  rw [dangling, references, List.filter_append]
  simp only [accepts_merge merged]
  congr 1
  · exact filter_merged model.references
  · simp only [flipped]
    exact filter_merged other.references

theorem check_merge (merged : model.merge [other] = .ok result) :
    result.check = .ok () ↔
      (∀ reference ∈ model.dangling, other.defines reference.target = true) ∧
        ∀ reference ∈ other.dangling, model.defines reference.target = true := by
  rw [check_eq_ok, dangling_merge merged, List.append_eq_nil_iff, List.filter_eq_nil_iff,
    List.filter_eq_nil_iff]
  simp

end Merge

/-! ## Namespaces -/

theorem nameSpace_origin {shape : Shape} (placed : shape.WellPlaced) :
    ∀ reference ∈ shape.references, reference.origin.nameSpace = shape.id.nameSpace := by
  have ofMember (member : Member) (isPart : member ∈ shape.body.parts) :
      member.reference.origin.nameSpace = shape.id.nameSpace := by
    rw [Member.reference, Member.id, placed.contained member isPart]
    exact placed.wellFormed.nameSpace_withMember member.name
  intro reference isReference
  unfold Shape.references at isReference
  cases body : shape.body with
  | simple _ | enumeration _ _ =>
    rw [body] at isReference
    cases isReference
  | «structure» _ | list _ | map _ _ =>
    rw [body] at isReference ofMember
    simp only [ShapeBody.parts] at ofMember
    grind
  | operation _ | service _ =>
    rw [body] at isReference
    simp only at isReference
    grind
  | resource resource =>
    rw [body] at isReference
    simp only [List.mem_append, List.mem_map] at isReference
    rcases isReference with ⟨identifier, -, rfl⟩ | ⟨target, -, rfl⟩
    · exact placed.wellFormed.nameSpace_withMember identifier.1
    · rfl

/-- The bucket of a namespace holds what the shapes of that namespace leave dangling. -/
theorem danglingIn_eq {model : Model}
    (placed : ∀ shape ∈ model.shapes, shape.WellPlaced) (space : String) :
    Emit.danglingIn model space = (inSpace model.shapes space).flatMap model.danglingOf := by
  have split (shape : Shape) (isShape : shape ∈ model.shapes) :
      (model.danglingOf shape).filter (·.origin.nameSpace == space) =
        if shape.id.nameSpace == space then model.danglingOf shape else [] := by
    have origin (reference : Reference) (isDangling : reference ∈ model.danglingOf shape) :
        reference.origin.nameSpace = shape.id.nameSpace :=
      nameSpace_origin (placed shape isShape) reference (List.mem_filter.mp isDangling).1
    by_cases here : shape.id.nameSpace == space
    · rw [if_pos here, List.filter_eq_self]
      intro reference isDangling
      rw [origin reference isDangling, here]
    · rw [if_neg here, List.filter_eq_nil_iff]
      intro reference isDangling
      rwa [origin reference isDangling]
  rw [Emit.danglingIn, dangling_eq, inSpace, List.filter_flatMap, List.flatMap_congr split]
  induction model.shapes with
  | nil => rfl
  | cons shape rest ih =>
    rw [List.flatMap_cons, ih, List.filter_cons]
    split
    · rw [List.flatMap_cons]
    · rfl

theorem perm_buckets {α : Type} (key : α → String) {spaces : List String} (distinct : spaces.Nodup)
    {items : List α} (covered : ∀ item ∈ items, key item ∈ spaces) :
    (spaces.flatMap fun space => items.filter (key · == space)).Perm items := by
  induction spaces generalizing items with
  | nil =>
    have empty : items = [] := List.eq_nil_iff_forall_not_mem.mpr fun item isItem =>
      List.not_mem_nil (covered item isItem)
    simp [empty]
  | cons space rest ih =>
    rcases List.nodup_cons.mp distinct with ⟨fresh, distinctRest⟩
    have coveredRest : ∀ item ∈ items.filter (!key · == space), key item ∈ rest := by
      intro item isItem
      rcases List.mem_filter.mp isItem with ⟨isItem, differs⟩
      have isCovered := covered item isItem
      grind
    have same : (rest.flatMap fun other => items.filter (key · == other)) =
        rest.flatMap fun other => (items.filter (!key · == space)).filter (key · == other) := by
      apply List.flatMap_congr
      intro other isOther
      rw [List.filter_filter]
      apply List.filter_congr
      grind
    rw [List.flatMap_cons, same]
    exact (List.Perm.append_left _ (ih distinctRest coveredRest)).trans
      (List.filter_append_perm (key · == space) items)

theorem mem_danglingIn {model : Model} {reference : Reference} {space : String} :
    reference ∈ Emit.danglingIn model space ↔
      reference ∈ model.dangling ∧ space = reference.origin.nameSpace := by
  rw [Emit.danglingIn, List.mem_filter, beq_iff_eq, eq_comm]

theorem perm_danglingIn (model : Model) :
    ((Text.sortedDistinct (model.dangling.map (·.origin.nameSpace))).flatMap
      (Emit.danglingIn model)).Perm model.dangling := by
  have covered (reference : Reference) (isDangling : reference ∈ model.dangling) :
      reference.origin.nameSpace ∈
        Text.sortedDistinct (model.dangling.map (·.origin.nameSpace)) := by
    rw [Text.mem_sortedDistinct]
    exact List.mem_map_of_mem isDangling
  exact perm_buckets _ (Text.nodup_sortedDistinct _) covered

/-- What a check reports for two models put together, and how it is divided among namespaces: the
failures of each model that the other does not repair, in order, each in one bucket, that of the
namespace of the shape that holds the reference. -/
theorem dangling_of_merge
    {model other result : Model}
    (merged : model.merge [other] = .ok result) :
    (∀ checked : Model,
      Fault.reported checked.check = checked.dangling.map Reference.fault) ∧
    result.dangling =
      (model.dangling.filter fun reference => !other.defines reference.target) ++
        other.dangling.filter (fun reference => !model.defines reference.target) ∧
    (∀ reference ∈ result.dangling,
      reference ∈ model.dangling ∨ reference ∈ other.dangling) ∧
    (result.check = .ok () ↔
      (∀ reference ∈ model.dangling, other.defines reference.target = true) ∧
        ∀ reference ∈ other.dangling, model.defines reference.target = true) ∧
    (∀ reference ∈ result.dangling, ∀ space,
      reference ∈ Emit.danglingIn result space ↔ space = reference.origin.nameSpace) ∧
    (∀ space, (Emit.danglingIn result space).Sublist result.dangling) ∧
    ((Text.sortedDistinct (result.dangling.map (·.origin.nameSpace))).flatMap
      (Emit.danglingIn result)).Perm result.dangling ∧
    (model.Obtained → other.Obtained →
      ∀ space, Emit.danglingIn result space =
        (inSpace result.shapes space).flatMap result.danglingOf) := by
  refine ⟨reported_check, dangling_merge merged, ?_, check_merge merged, ?_, ?_,
    perm_danglingIn result, ?_⟩
  · intro reference isDangling
    rw [dangling_merge merged, List.mem_append, List.mem_filter, List.mem_filter] at isDangling
    exact isDangling.imp And.left And.left
  · intro reference isDangling space
    rw [mem_danglingIn, and_iff_right isDangling]
  · intro space
    exact List.filter_sublist
  · intro obtained otherObtained space
    have added : ∀ more ∈ [other], more.Obtained := by simpa using otherObtained
    exact danglingIn_eq (Obtained.merged obtained added merged).wellPlaced space

/-! A press whose prints are described by another model, and whose pages by none. -/

namespace Press

open ShapeForge.Document (Value)

def listValue (target : String) : Value :=
  .plainObject
    [("type", .plainText "list"), ("member", .plainObject [("target", .plainText target)])]

def listShape (id target : String) : Shape where
  id := ⟨id⟩
  line := 1
  body := .list { name := "member", container := ⟨id⟩, target := ⟨target⟩, line := 1 }

/-- A document with lists, each given by its identifier and that of its items. -/
def document (lists : List (String × String)) : Value :=
  .plainObject
    [("smithy", .plainText "2.0"),
      ("shapes", .plainObject (lists.map fun (id, target) => (id, listValue target)))]

def listModel (lists : List (String × String)) : Model where
  version := "2.0"
  shapes := lists.map fun (id, target) => listShape id target

def pressLists : List (String × String) :=
  [("press#Pages", "press#Page"), ("press#Prints", "ink#Print")]

def inkLists : List (String × String) :=
  [("ink#Print", "press#Pages"), ("ink#Colors", "ink#Color")]

theorem obtained_press : (listModel pressLists).Obtained :=
  .loaded (show Load.model "press.json" (document pressLists) = .ok (listModel pressLists) from rfl)

theorem obtained_ink : (listModel inkLists).Obtained :=
  .loaded (show Load.model "ink.json" (document inkLists) = .ok (listModel inkLists) from rfl)

end Press

open Press in
theorem dangling_of_merge_press :
    (listModel pressLists).merge [listModel inkLists] =
        .ok (listModel (pressLists ++ inkLists)) ∧
      (listModel (pressLists ++ inkLists)).dangling =
        [{ origin := ⟨"press#Pages$member"⟩, target := ⟨"press#Page"⟩ },
          { origin := ⟨"ink#Colors$member"⟩, target := ⟨"ink#Color"⟩ }] ∧
      Emit.danglingIn (listModel (pressLists ++ inkLists)) "ink" =
        (inSpace (listModel (pressLists ++ inkLists)).shapes "ink").flatMap
          (listModel (pressLists ++ inkLists)).danglingOf := by
  have merged : (listModel pressLists).merge [listModel inkLists] =
      .ok (listModel (pressLists ++ inkLists)) := rfl
  rcases dangling_of_merge merged with ⟨-, dangling, -, -, -, -, -, held⟩
  refine ⟨merged, ?_, held obtained_press obtained_ink "ink"⟩
  rw [dangling]
  decide

end Model

end ShapeForge
