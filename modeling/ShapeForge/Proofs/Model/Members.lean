import ShapeForge.Proofs.Model.Identifiers

/-!
# The members of a loaded structure

A document may give a key of an object more than once.  Every field of the object that describes the
members of a structure becomes a member of it, under its key and in order.  So the members can be
told apart by their names if and only if no key of that object is repeated.
-/

namespace ShapeForge

/-- The members of a structure can be told apart by their names, and so can their identifiers; a
look-up by name finds the member that has it. -/
structure Shape.Unambiguous (shape : Shape) : Prop where
  names : (shape.members.map (·.name)).Nodup
  ids : (shape.members.map (·.id)).Nodup
  found : ∀ member ∈ shape.members, shape.member? member.name = some member

namespace ShapeId

theorem withMember_injective (id : ShapeId) : Function.Injective id.withMember := by
  intro first second same
  have texts : id.text ++ "$" ++ first = id.text ++ "$" ++ second := congrArg text same
  exact String.append_right_inj _ |>.mp texts

end ShapeId

theorem Shape.unambiguous_of_nodup {shape : Shape}
    (contained : ∀ member ∈ shape.members, member.container = shape.id)
    (distinct : (shape.members.map (·.name)).Nodup) :
    shape.Unambiguous where
  names := distinct
  ids := by
    have ids : shape.members.map (·.id) =
        (shape.members.map (·.name)).map shape.id.withMember := by
      rw [List.map_map]
      refine List.map_congr_left fun member isMember => ?_
      rw [Member.id, contained member isMember]
      rfl
    rw [ids]
    exact distinct.map shape.id.withMember_injective
  found := by
    intro member isMember
    have isFound : (shape.member? member.name).isSome = true :=
      List.find?_isSome.mpr ⟨member, isMember, beq_self_eq_true _⟩
    rcases Option.isSome_iff_exists.mp isFound with ⟨other, found⟩
    have same : other.name = member.name := by simpa using List.find?_some found
    have isOther : other ∈ shape.members := List.mem_of_find?_eq_some found
    rw [found, List.inj_on_of_nodup_map distinct isOther isMember same]

namespace Load

open ShapeForge.Document (Value)

variable {source : String}

variable {container : ShapeId} {result : List Member}

theorem names_of_members {value : Value}
    (read : members source container (value.get? "members") = .ok result) :
    result.map (·.name) = (memberFields value).map (·.1) := by
  rw [← List.forall₂_eq_eq_eq, List.forall₂_map_left_iff, List.forall₂_map_right_iff]
  refine (members_eq_ok read).imp fun part field readPart => ?_
  exact (member_eq_ok readPart.2).elim fun _ readMember => readMember.name

theorem names_of_body {type : String} {value : Value}
    (read : body source container type value = .ok (.structure result)) :
    result.map (·.name) = (memberFields value).map (·.1) := by
  unfold body at read
  split at read
  · cases read
  · split at read
    case h_6 =>
      rcases bind_eq_ok.mp read with ⟨declared, areMembers, read⟩
      cases read
      exact names_of_members areMembers
    case h_5 =>
      rcases bind_eq_ok.mp read with ⟨key, -, read⟩
      rcases bind_eq_ok.mp read with ⟨content, -, read⟩
      cases read
    case h_10 => cases read
    all_goals
      rcases bind_eq_ok.mp read with ⟨content, -, read⟩
      cases read

/-- The members of a structure are named by the keys of the object that describes them, in order;
repeated keys are all kept.  The structure is unambiguous exactly if no key is repeated. -/
theorem member_names_of_model
    {root : Value} {result : Model}
    (read : model source root = .ok result) :
    ∀ shape ∈ result.shapes, ∀ members, shape.body = .structure members →
      ∃ field ∈ shapeFields root, field.1 = shape.id.text ∧
        members.map (·.name) = (memberFields field.2.2).map (·.1) ∧
        (((memberFields field.2.2).map (·.1)).Nodup ↔ shape.Unambiguous) := by
  intro shape isShape members isStructure
  rcases exists_partner (readFrom_of_model read).flip shape isShape with
    ⟨field, isField, readShape⟩
  rcases shape_eq_ok readShape.shape with ⟨-, -, type, -, isBody⟩
  rw [isStructure] at isBody
  have names := names_of_body isBody
  have own : shape.members = members := Shape.members_of_body isStructure
  have contained : ∀ member ∈ shape.members, member.container = shape.id := by
    rw [own]
    exact container_of_body isBody
  refine ⟨field, isField, readShape.key.symm, names, ?_⟩
  rw [← names, ← own]
  exact ⟨Shape.unambiguous_of_nodup contained, Shape.Unambiguous.names⟩

/-! An order with two members, which may be given under one name. -/

namespace Purchase

def memberText (name target : String) : String :=
  "\"" ++ name ++ "\": \x7b\"target\": \"" ++ target ++ "\"\x7d"

/-- The text of a document with one structure, whose second member has a given name. -/
def text (second : String) : String :=
  "\x7b\"shapes\": \x7b\"shop#Order\": \x7b\"type\": \"structure\", \"members\": \x7b" ++
    memberText "unit" "smithy.api#String" ++ ", " ++
    memberText second "smithy.api#Integer" ++ "\x7d\x7d\x7d\x7d"

def part (name target : String) : Member where
  name
  container := ⟨"shop#Order"⟩
  target := ⟨target⟩
  line := 1

def order (second : String) : Shape where
  id := ⟨"shop#Order"⟩
  line := 1
  body := .structure [part "unit" "smithy.api#String", part second "smithy.api#Integer"]

/-- A text that is read as a document and gives a model. -/
def Gives (text : String) (result : Model) : Prop :=
  ∃ root, Document.read text = .ok root ∧ model "order.json" root = .ok result

theorem gives_of_evaluation {text : String} {result : Model}
    (evaluated : (Document.read text).toOption.bind
      (fun root => (model "order.json" root).toOption) = some result) :
    Gives text result := by
  rcases Option.bind_eq_some_iff.mp evaluated with ⟨root, isRead, isModel⟩
  exact ⟨root, eq_ok_of_toOption isRead, eq_ok_of_toOption isModel⟩

theorem gives_order {second : String} (isSecond : second = "count" ∨ second = "unit") :
    Gives (text second) { shapes := [order second] } := by
  rcases isSecond with rfl | rfl <;> exact gives_of_evaluation (by decide +kernel)

end Purchase

open Purchase in
theorem member_names_of_model_order :
    Gives (text "count") { shapes := [order "count"] } ∧ (order "count").Unambiguous := by
  have gives := gives_order (.inl rfl)
  refine ⟨gives, ?_⟩
  rcases gives with ⟨root, -, read⟩
  rcases member_names_of_model read _ List.mem_cons_self _ rfl with
    ⟨field, -, -, names, distinct⟩
  apply distinct.mp
  rw [← names]
  decide

open Purchase in
/-- A key that is given twice is accepted, and makes two members of one name. -/
theorem member_names_repeated_order :
    Gives (text "unit") { shapes := [order "unit"] } ∧
      (order "unit").members.map (·.name) = ["unit", "unit"] ∧
      ¬((order "unit").members.map (·.name)).Nodup ∧ ¬(order "unit").Unambiguous := by
  have repeated : ¬((order "unit").members.map (·.name)).Nodup := by decide
  exact ⟨gives_order (.inr rfl), rfl, repeated, fun unambiguous => repeated unambiguous.names⟩

end Load

end ShapeForge
