import ShapeForge.Proofs.Mock.Synthesized
import ShapeForge.Proofs.Model.Merging

/-!
# Synthesis over a larger model

A synthesis looks up the shapes that it reaches and nothing else.  A model that defines further
shapes, as a merge does, leaves what was found, so every draw of a synthesis that succeeds is made
again over the larger model, from the same state of the generator and to the same state.  The
instance is the same, and it is the same wherever the synthesis stands among others.
-/

namespace ShapeForge

namespace Model

/-- All shapes of a model are shapes of another one too. -/
def Within (model larger : Model) : Prop :=
  ∀ id shape, model.lookup? id = some shape → larger.lookup? id = some shape

theorem within_of_merge {model merged : Model} {others : List Model}
    (merges : model.merge others = .ok merged) :
    model.Within merged := by
  intro id shape found
  rcases merge_cases model others with ⟨succeeded, -⟩ | ⟨id, failed, -⟩
  · cases succeeded.symm.trans merges
    rw [lookup?] at found ⊢
    rw [List.find?_append, found, Option.some_or]
  · cases failed.symm.trans merges

section Within

variable {model larger : Model}

theorem Within.classify (within : model.Within larger) {target : ShapeId} {type : TypeRef}
    (classified : model.classify target = .ok type) :
    larger.classify target = .ok type := by
  unfold Model.classify at classified ⊢
  -- Types of the prelude are not looked up at all, whoever defines them.
  by_cases isPrelude : target.isPrelude = true
  · rwa [if_pos isPrelude] at classified ⊢
  · rw [if_neg isPrelude] at classified ⊢
    cases found : model.lookup? target with
    | none =>
      rw [found] at classified
      cases classified
    | some shape =>
      rw [found] at classified
      rwa [within target shape found]

theorem Within.classifyMember (within : model.Within larger) {member : Member} {type : TypeRef}
    (classified : model.classifyMember member = .ok type) :
    larger.classifyMember member = .ok type :=
  classifyMember_eq_ok.mpr (within.classify (classifyMember_eq_ok.mp classified))

theorem Within.resolveStructure (within : model.Within larger) {id : ShapeId} {shape : Shape}
    (resolved : model.resolveStructure id = .ok shape) :
    larger.resolveStructure id = .ok shape := by
  have found := (resolveStructure_eq_ok resolved).1
  unfold Model.resolveStructure resolveKind resolve at resolved ⊢
  rw [within id shape found]
  rw [found] at resolved
  exact resolved

end Within

end Model

/-! ## Draws that are repeated -/

namespace Draw

variable {α β : Type}

/-- What a draw returns, and the state of the generator after it, are those of another draw from
the same state. -/
def Repeats (draw other : Draw α) : Prop :=
  ∀ random drawn, draw random = .ok drawn → other random = .ok drawn

theorem Repeats.refl (draw : Draw α) : Repeats draw draw :=
  fun _ _ run => run

theorem repeats_throw (fault : Fault) (other : Draw α) : Repeats (throw fault) other := by
  intro random drawn run
  cases run

theorem Repeats.bind {draw other : Draw α} {next otherNext : α → Draw β}
    (first : Repeats draw other) (rest : ∀ value, Repeats (next value) (otherNext value)) :
    Repeats (draw >>= next) (other >>= otherNext) := by
  intro random drawn run
  cases made : draw random with
  | error fault => simp [Bind.bind, StateT.bind, Except.bind, made] at run
  | ok middle =>
    simp only [Bind.bind, StateT.bind, Except.bind, made] at run
    simp only [Bind.bind, StateT.bind, Except.bind, first random middle made]
    exact rest middle.1 middle.2 drawn run

end Draw

/-! ## Synthesis -/

namespace Mocks

open Draw (Repeats repeats_throw)

/-- The same seed and size of lists for another model. -/
def withModel (mocks : Mocks) (model : Model) : Mocks :=
  { mocks with model }

variable {larger : Model}

/-- Over a larger model every part of a synthesis that succeeds is repeated draw by draw. -/
theorem repeats_withModel (mocks : Mocks) (within : mocks.model.Within larger) :
    (∀ around member name,
      Repeats (memberValue mocks around member name)
        (memberValue (mocks.withModel larger) around member name)) ∧
    (∀ around item name count,
      Repeats (listItems mocks around item name count)
        (listItems (mocks.withModel larger) around item name count)) ∧
    (∀ around members,
      Repeats (structureFields mocks around members)
        (structureFields (mocks.withModel larger) around members)) := by
  have found {member : Member} {type : TypeRef}
      (classified : mocks.model.classifyMember member = .ok type) :
      (mocks.withModel larger).model.classifyMember member = .ok type :=
    within.classifyMember classified
  refine memberValue.mutual_induct_unfolding mocks
    (fun around member name draw =>
      Repeats draw (memberValue (mocks.withModel larger) around member name))
    (fun around item name count draw =>
      Repeats draw (listItems (mocks.withModel larger) around item name count))
    (fun around members draw =>
      Repeats draw (structureFields (mocks.withModel larger) around members))
    ?unresolved ?primitive ?simple ?enumeration ?activeStructure ?inactiveStructure
    ?endlessList ?elementUnresolved ?activeElement ?list
    ?endlessMap ?keyUnresolved ?valueUnresolved ?map
    ?noItems ?moreItems ?noFields ?moreFields
  case primitive =>
    intro around member name target kind classified
    rw [memberValue_eq (found classified)]
    exact Repeats.refl _
  case simple =>
    intro around member name shape kind classified
    rw [memberValue_eq (found classified)]
    exact Repeats.refl _
  case enumeration =>
    intro around member name shape numeric members classified
    rw [memberValue_eq (found classified)]
    exact Repeats.refl _
  case activeStructure =>
    intro around member name shape members classified isActive
    rw [memberValue_eq (found classified), ofType, if_pos isActive]
    exact Repeats.refl _
  case inactiveStructure =>
    intro around member name shape members classified inactive ih
    rw [memberValue_eq (found classified), ofType, if_neg inactive]
    exact ih.bind fun _ => Repeats.refl _
  case activeElement =>
    intro around member name shape item classified unopened type element isActive
    rw [memberValue_list (found classified) (found element),
      if_neg unopened, if_pos isActive]
    exact Repeats.refl _
  case list =>
    intro around member name shape item classified unopened type element inactive ih
    rw [memberValue_list (found classified) (found element),
      if_neg unopened, if_neg inactive]
    exact ih.bind fun _ => Repeats.refl _
  case map =>
    intro around member name shape key value classified unopened keyType valueType
      valueResolved keyResolved valueIH keyIH
    rw [memberValue_map (found classified) (found keyResolved)
      (found valueResolved), if_neg unopened]
    refine valueIH.bind fun content => ?_
    cases content with
    | none => exact Repeats.refl _
    | some content =>
      refine keyIH.bind fun entry => ?_
      cases entry <;> exact Repeats.refl _
  case noItems =>
    intro around item name
    rw [listItems]
    exact Repeats.refl _
  case moreItems =>
    intro around item name more firstIH restIH
    rw [listItems]
    exact firstIH.bind fun _ => restIH.bind fun _ => Repeats.refl _
  case noFields =>
    intro around
    rw [structureFields]
    exact Repeats.refl _
  case moreFields =>
    intro around member rest firstIH restIH
    rw [structureFields]
    exact firstIH.bind fun _ => restIH.bind fun _ => Repeats.refl _
  all_goals
    intros
    exact repeats_throw _ _

theorem ofStructure_withModel {mocks : Mocks} {id : ShapeId} {value : MockValue}
    (within : mocks.model.Within larger) (made : mocks.ofStructure id = .ok value) :
    (mocks.withModel larger).ofStructure id = .ok value := by
  rw [ofStructure_eq] at made ⊢
  rcases bind_eq_ok.mp made with ⟨shape, resolved, made⟩
  rcases map_eq_ok.mp made with ⟨drawn, run, rfl⟩
  have again := (repeats_withModel mocks within).2.2 _ _ _ drawn run
  exact bind_eq_ok.mpr
    ⟨shape, within.resolveStructure resolved, map_eq_ok.mpr ⟨drawn, again, rfl⟩⟩

theorem synthesize_withModel {mocks : Mocks} {id : ShapeId} {value : Option MockValue}
    (within : mocks.model.Within larger) (made : mocks.synthesize id = .ok value) :
    (mocks.withModel larger).synthesize id = .ok value := by
  rw [synthesize_eq] at made ⊢
  rcases bind_eq_ok.mp made with ⟨type, classified, made⟩
  rcases map_eq_ok.mp made with ⟨drawn, run, rfl⟩
  have again := (repeats_withModel mocks within).1 _ _ _ _ drawn run
  exact bind_eq_ok.mpr ⟨type, within.classify classified, map_eq_ok.mpr ⟨drawn, again, rfl⟩⟩

/-- What mocks are asked for: an instance of a structure, or of any data. -/
inductive Query where
  | struct (id : ShapeId)
  | data (id : ShapeId)

def answer (mocks : Mocks) : Query → Except Fault (Option MockValue)
  | .struct id => (mocks.ofStructure id).map some
  | .data id => mocks.synthesize id

def answers (mocks : Mocks) (queries : List Query) : List (Except Fault (Option MockValue)) :=
  queries.map mocks.answer

theorem answer_withModel {mocks : Mocks} {query : Query} {value : Option MockValue}
    (within : mocks.model.Within larger) (answered : mocks.answer query = .ok value) :
    (mocks.withModel larger).answer query = .ok value := by
  cases query with
  | struct id =>
    rcases map_eq_ok.mp answered with ⟨made, run, rfl⟩
    exact map_eq_ok.mpr ⟨made, ofStructure_withModel within run, rfl⟩
  | data id => exact synthesize_withModel within answered

/-- Merging other models into a model leaves every instance of its shapes as it is, with the same
seed and size of lists.  It stays so among other queries, whatever was asked before or after. -/
theorem instances_unchanged_by_merge
    (mocks : Mocks) {merged : Model} {others : List Model}
    (merges : mocks.model.merge others = .ok merged) :
    (∀ id value, mocks.ofStructure id = .ok value →
      (mocks.withModel merged).ofStructure id = .ok value) ∧
    (∀ id value, mocks.synthesize id = .ok value →
      (mocks.withModel merged).synthesize id = .ok value) ∧
    (∀ query value, mocks.answer query = .ok value → ∀ before after,
      (mocks.answers (before ++ query :: after))[before.length]? = some (.ok value) ∧
      ((mocks.withModel merged).answers (before ++ query :: after))[before.length]? =
        some (.ok value)) := by
  have within := Model.within_of_merge merges
  refine ⟨fun id value => ofStructure_withModel within,
    fun id value => synthesize_withModel within, ?_⟩
  intro query value answered before after
  have again := answer_withModel within answered
  simp [answers, answered, again]

/-! Tickets of a fair have a price and seats, which are drawn.  A depot defines a shape with the name
of a type of the prelude, and has seats of its own. -/

namespace Fair

def ticketId : ShapeId := ⟨"example.fair#Ticket"⟩

def seatsId : ShapeId := ⟨"example.fair#Seats"⟩

def price : Member := { name := "price", container := ticketId, target := .prelude "Integer" }

def seats : Member := { name := "seats", container := ticketId, target := seatsId }

def ticket : Shape := { id := ticketId, body := .structure [price, seats] }

def seat : Member := { name := "member", container := seatsId, target := .prelude "String" }

def seatList : Shape := { id := seatsId, body := .list seat }

def mocks : Mocks := { model := { shapes := [ticket, seatList] }, listSize := 2 }

def depot : Model where
  shapes :=
    [{ id := .prelude "Integer", body := .structure [price] },
      { id := ⟨"example.depot#Seats"⟩, body := .structure [seats] }]

def both : Model where
  shapes := mocks.model.shapes ++ depot.shapes

def sample : MockValue :=
  .structure ticketId
    [(price, .int (.prelude "Integer") (some .integer) 4),
      (seats, .list seatsId
        [.string (.prelude "String") (some .string) "seats-492",
          .string (.prelude "String") (some .string) "seats-9225"])]

/-! The states of the generator after each of the draws. -/

def afterPrice : Random := ⟨136229538199915632451059770899683638363⟩

def afterSeat : Random := ⟨122751667689037123263488162840566855638⟩

def afterLast : Random := ⟨139200481924525592930253648108693713405⟩

theorem drawn_price : Draw.below 100 (mocks.random ticketId) = .ok (3, afterPrice) :=
  congrArg Except.ok (by decide +kernel)

theorem drawn_seat : Draw.below 10000 afterPrice = .ok (492, afterSeat) :=
  congrArg Except.ok (by decide)

theorem drawn_last : Draw.below 10000 afterSeat = .ok (9225, afterLast) :=
  congrArg Except.ok (by decide)

theorem ofStructure_ticket : mocks.ofStructure ticketId = .ok sample := by
  have resolved : mocks.model.resolveStructure ticketId = .ok ticket := rfl
  have seatsType : mocks.model.classifyMember seats = .ok (.list seatList seat) := rfl
  have seatType : mocks.model.classifyMember seat =
      .ok (.primitive (.prelude "String") .string) := rfl
  have priceValue (around : Surroundings) :
      memberValue mocks around price price.name (mocks.random ticketId) =
        .ok (some (.int (.prelude "Integer") (some .integer) 4), afterPrice) := by
    rw [memberValue]
    exact Draw.run_bind (Draw.run_bind drawn_price)
  have seatValue (around : Surroundings) {random after : Random} {number : Nat}
      (drawn : Draw.below 10000 random = .ok (number, after)) :
      memberValue mocks around seat seats.name random =
        .ok (some (.string (.prelude "String") (some .string) ("seats-" ++ toString number)),
          after) := by
    rw [memberValue]
    exact Draw.run_bind (Draw.run_bind drawn)
  have seatsValue (around : Surroundings) :
      listItems mocks around seat seats.name 2 afterPrice =
        .ok ([.string (.prelude "String") (some .string) "seats-492",
          .string (.prelude "String") (some .string) "seats-9225"], afterLast) := by
    simp only [listItems, bind, StateT.bind, Except.bind, seatValue around drawn_seat,
      seatValue around drawn_last]
    rfl
  have members : ticket.members = [price, seats] := rfl
  have size : mocks.listSize = 2 := rfl
  rw [ofStructure_eq, resolved]
  have listed : memberValue mocks (Surroundings.enter {} ticketId) seats seats.name afterPrice =
      .ok (some (.list seatsId
        [.string (.prelude "String") (some .string) "seats-492",
          .string (.prelude "String") (some .string) "seats-9225"]), afterLast) := by
    have entered : (Surroundings.enter {} ticketId).opened.contains seatList.id = false := rfl
    rw [memberValue_list seatsType seatType, entered, if_neg Bool.false_ne_true]
    simp only [TypeRef.isStructure, Bool.false_and, Bool.false_eq_true, if_false, bind,
      StateT.bind, Except.bind, size, seatsValue]
    rfl
  simp only [Except.bind, members, structureFields, bind, StateT.bind, priceValue, listed]
  rfl

theorem merge_depot : mocks.model.merge [depot] = .ok both := rfl

end Fair

/-- Tickets stay what they are when the depot joins the fair, also behind other queries. -/
theorem instances_unchanged_by_merge_fair :
    Fair.mocks.model.merge [Fair.depot] = .ok Fair.both ∧
      Fair.mocks.ofStructure Fair.ticketId = .ok Fair.sample ∧
      (Fair.mocks.withModel Fair.both).ofStructure Fair.ticketId = .ok Fair.sample ∧
      ((Fair.mocks.withModel Fair.both).answers
        [.data Fair.seatsId, .struct Fair.ticketId, .struct Fair.seatsId])[1]? =
          some (.ok (some Fair.sample)) := by
  rcases instances_unchanged_by_merge Fair.mocks Fair.merge_depot with ⟨structures, -, others⟩
  have made : Fair.mocks.answer (.struct Fair.ticketId) = .ok (some Fair.sample) := by
    rw [answer, Fair.ofStructure_ticket]
    rfl
  exact ⟨Fair.merge_depot, Fair.ofStructure_ticket, structures _ _ Fair.ofStructure_ticket,
    (others _ _ made [.data Fair.seatsId] [.struct Fair.seatsId]).2⟩

end Mocks

end ShapeForge
