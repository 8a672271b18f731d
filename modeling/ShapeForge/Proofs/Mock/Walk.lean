import Mathlib.Data.Finset.Basic
import ShapeForge.Proofs.Mock.Synthesized

/-!
# The walk of a synthesis

A synthesis walks down the graph of shapes with one set of active structures: a structure is
entered into the set, its members are synthesized, and it leaves the set again, whether that
succeeded or failed.  `Mocks.walkValue` and its companions are that walk, without any guard
against lists and maps that contain themselves; how deep their calls may go is limited by a
number, and a walk ends where some limit is enough.  This module proves that the walk ends on
every grounded model, that it leaves the set of active structures as it was, and that its results
are those of the synthesis.  In an instance no structure occurs twice on a path from the root.
-/

namespace ShapeForge

namespace Mocks

/-! ## The walk -/

/-- The state of a walk: the structures being synthesized and the generator. -/
structure Progress where
  active : Finset ShapeId
  random : Random

namespace Progress

def enter (progress : Progress) (id : ShapeId) : Progress :=
  { progress with active := insert id progress.active }

def leave (progress : Progress) (id : ShapeId) : Progress :=
  { progress with active := progress.active.erase id }

end Progress

/-- A part of a walk: it has no result where its calls go deeper than they may.  A failure is a
result, so the state outlives it. -/
abbrev Walk := StateT Progress Option

def Walk.ofDraw {α : Type} (draw : Draw α) : Walk (Except Fault α) := fun progress =>
  match draw progress.random with
  | .ok (value, random) => some (.ok value, { progress with random })
  | .error fault => some (.error fault, progress)

mutual

/-- A value for the target of a member, unless it is left out. -/
def walkValue (mocks : Mocks) :
    Nat → Member → String → Walk (Except Fault (Option MockValue))
  | 0, _, _ => failure
  | depth + 1, member, name =>
    match mocks.model.classifyMember member with
    | .error fault => return .error fault
    | .ok (.primitive target kind) => Walk.ofDraw do return some (← scalar target kind name)
    | .ok (.simple shape kind) => Walk.ofDraw do return some (← scalar shape.id kind name)
    | .ok (.enumeration shape numeric members) => Walk.ofDraw (choice shape.id numeric members)
    | .ok (.structure shape members) => do
      if shape.id ∈ (← get).active then return .ok none
      else
        let outcome ← walkStructure mocks depth shape.id members
        return outcome.map some
    | .ok (.list shape item) =>
      match mocks.model.classifyMember item with
      | .error fault => return .error fault
      | .ok type => do
        if type.isStructure = true ∧ type.target ∈ (← get).active then return .ok none
        else
          let outcome ← walkItems mocks depth item name mocks.listSize
          return outcome.map fun items => some (.list shape.id items)
    | .ok (.map shape key value) =>
      match mocks.model.classifyMember key, mocks.model.classifyMember value with
      | .error fault, _ => return .error fault
      | .ok _, .error fault => return .error fault
      | .ok _, .ok _ => do
        match ← walkValue mocks depth value name with
        | .error fault => return .error fault
        | .ok none => return .ok none
        | .ok (some content) =>
          let outcome ← walkValue mocks depth key (name ++ "Key")
          return outcome.map fun entry =>
            entry.map fun entry => .map shape.id [(entry, content)]

/-- An instance of a structure, which is active while its members are synthesized. -/
def walkStructure (mocks : Mocks) :
    Nat → ShapeId → List Member → Walk (Except Fault MockValue)
  | 0, _, _ => failure
  | depth + 1, id, members => do
    modify (·.enter id)
    let outcome ← walkFields mocks depth members
    modify (·.leave id)
    return outcome.map (.structure id)

def walkFields (mocks : Mocks) :
    Nat → List Member → Walk (Except Fault (List (Member × MockValue)))
  | 0, _ => failure
  | _ + 1, [] => return .ok []
  | depth + 1, member :: rest => do
    match ← walkValue mocks depth member member.name with
    | .error fault => return .error fault
    | .ok first =>
      let outcome ← walkFields mocks depth rest
      return outcome.map fun fields => (first.map (member, ·)).toList ++ fields

def walkItems (mocks : Mocks) :
    Nat → Member → String → Nat → Walk (Except Fault (List MockValue))
  | 0, _, _, _ => failure
  | _ + 1, _, _, 0 => return .ok []
  | depth + 1, item, name, more + 1 => do
    match ← walkValue mocks depth item name with
    | .error fault => return .error fault
    | .ok first =>
      let outcome ← walkItems mocks depth item name more
      return outcome.map fun items => first.toList ++ items

end

def walkOfStructure (mocks : Mocks) (depth : Nat) (id : ShapeId) :
    Walk (Except Fault MockValue) :=
  match mocks.model.resolveStructure id with
  | .error fault => return .error fault
  | .ok shape => walkStructure mocks depth id shape.members

def walkSynthesize (mocks : Mocks) (depth : Nat) (id : ShapeId) :
    Walk (Except Fault (Option MockValue)) :=
  match mocks.model.classify id with
  | .error fault => return .error fault
  | .ok _ => walkValue mocks depth (root id) id.name

def start (mocks : Mocks) (id : ShapeId) : Progress :=
  { active := ∅, random := mocks.random id }

/-! ## Walks that end -/

namespace Walk

variable {α β : Type}

/-- A walk ends: whenever its calls may go deep enough, it has that result. -/
def Ends (walk : Nat → Walk α) (before : Progress) (outcome : α) (after : Progress) : Prop :=
  ∃ enough, ∀ depth ≥ enough, walk depth before = some (outcome, after)

/-- A walk ends from every state of the generator with the outcome of a draw, and leaves the active
structures as they were. -/
def Follows (active : Finset ShapeId) (walk : Nat → Walk (Except Fault α)) (draw : Draw α) :
    Prop :=
  ∀ random, ∃ after,
    Ends walk { active, random } ((draw random).map Prod.fst) after ∧
      after.active = active ∧
      ∀ value random', draw random = .ok (value, random') → after.random = random'

variable {active : Finset ShapeId} {walk : Nat → Walk (Except Fault α)} {draw : Draw α}

/-- It is enough that a walk follows the draw when its calls may go one deeper. -/
theorem Follows.of_succ (follows : Follows active (fun depth => walk (depth + 1)) draw) :
    Follows active walk draw := by
  intro random
  rcases follows random with ⟨after, ⟨enough, walked⟩, kept⟩
  refine ⟨after, ⟨enough + 1, fun depth deep => ?_⟩, kept⟩
  obtain ⟨below, rfl⟩ : ∃ below, depth = below + 1 := ⟨depth - 1, by omega⟩
  exact walked below (by omega)

theorem follows_ofDraw (active : Finset ShapeId) (draw : Draw α) :
    Follows active (fun _ => ofDraw draw) draw := by
  intro random
  unfold ofDraw
  cases run : draw random with
  | error fault =>
    refine ⟨{ active, random }, ⟨0, by simp [Except.map, run]⟩, rfl, ?_⟩
    intro value random' returned
    cases returned
  | ok drawn =>
    refine ⟨{ active, random := drawn.2 }, ⟨0, by simp [Except.map, run]⟩, rfl, ?_⟩
    intro value random' returned
    cases returned
    rfl

theorem follows_pure (active : Finset ShapeId) (value : α) :
    Follows active (fun _ => pure (.ok value)) (pure value) :=
  fun _ => ⟨_, ⟨0, fun _ _ => rfl⟩, rfl, fun _ _ returned => by cases returned; rfl⟩

theorem follows_throw (active : Finset ShapeId) (fault : Fault) :
    Follows active (fun _ => (pure (.error fault) : Walk (Except Fault α))) (throw fault) :=
  fun _ => ⟨_, ⟨0, fun _ _ => rfl⟩, rfl, fun _ _ returned => by cases returned⟩

theorem Follows.bind
    {walkNext : Nat → Except Fault α → Walk (Except Fault β)} {drawNext : α → Draw β}
    (first : Follows active walk draw)
    (stops : ∀ depth fault, walkNext depth (.error fault) = pure (.error fault))
    (rest : ∀ value, Follows active (fun depth => walkNext depth (.ok value)) (drawNext value)) :
    Follows active (fun depth => walk depth >>= walkNext depth) (draw >>= drawNext) := by
  intro random
  rcases first random with ⟨after, ⟨enough, walked⟩, kept, random'⟩
  rcases after with ⟨afterActive, afterRandom⟩
  cases kept
  cases run : draw random with
  | error fault =>
    rw [run] at walked
    refine ⟨⟨afterActive, afterRandom⟩, ⟨enough, fun depth deep => ?_⟩, rfl, ?_⟩
    · simp only [Bind.bind, StateT.bind, Option.bind, walked depth deep, Except.map, stops, run,
        Except.bind]
      rfl
    · intro value final returned
      simp [Bind.bind, StateT.bind, Except.bind, run] at returned
  | ok drawn =>
    cases random' drawn.1 drawn.2 run
    rcases rest drawn.1 drawn.2 with ⟨after, ⟨later, walkedRest⟩, kept, random'⟩
    rw [run] at walked
    refine ⟨after, ⟨max enough later, fun depth deep => ?_⟩, kept, ?_⟩
    · simp only [Bind.bind, StateT.bind, Option.bind, walked depth (by omega), run, Except.bind]
      exact walkedRest depth (by omega)
    · simpa only [Bind.bind, StateT.bind, Except.bind, run] using random'

theorem Follows.map (first : Follows active walk draw) (make : α → β) :
    Follows active (fun depth => do let outcome ← walk depth; return outcome.map make)
      (do let value ← draw; return make value) :=
  first.bind (fun _ _ => rfl) fun value => follows_pure active (make value)

/-- A walk may look at the active structures before it goes on. -/
theorem Follows.inspect {walkNext : Nat → Progress → Walk (Except Fault α)}
    (follows : Follows active walk draw)
    (chosen : ∀ depth random, walkNext depth { active, random } = walk depth) :
    Follows active (fun depth => get >>= walkNext depth) draw := by
  intro random
  rcases follows random with ⟨after, ⟨enough, walked⟩, kept⟩
  refine ⟨after, ⟨enough, fun depth deep => ?_⟩, kept⟩
  rw [← walked depth deep, ← chosen depth random]
  rfl

/-- A structure that was not active is not active again after its members. -/
theorem Follows.within {id : ShapeId} (inside : Follows (insert id active) walk draw)
    (fresh : id ∉ active) (make : α → β) :
    Follows active
      (fun depth => do
        modify (·.enter id)
        let outcome ← walk depth
        modify (·.leave id)
        return outcome.map make)
      (do let value ← draw; return make value) := by
  intro random
  rcases inside random with ⟨after, ⟨enough, walked⟩, kept, random'⟩
  refine ⟨after.leave id, ⟨enough, fun depth deep => ?_⟩, ?_, ?_⟩
  · have entered :
        Progress.enter { active, random } id = { active := insert id active, random } := rfl
    simp only [Bind.bind, StateT.bind, Option.bind, modify, modifyGet,
      MonadStateOf.modifyGet, StateT.modifyGet, Pure.pure, entered, walked depth deep]
    cases draw random <;> rfl
  · simp [Progress.leave, kept, Finset.erase_insert fresh]
  · intro value final returned
    cases run : draw random with
    | error fault =>
      simp [Bind.bind, StateT.bind, Except.bind, run] at returned
    | ok drawn =>
      simp only [Bind.bind, StateT.bind, Except.bind, run] at returned
      cases returned
      exact random' drawn.1 drawn.2 run

end Walk

/-! ## The walk follows the synthesis -/

/-- The lists and maps that are open lie around a target without a structure in between. -/
def Enclosed (model : Model) (around : Surroundings) (target : ShapeId) : Prop :=
  ∀ id ∈ around.opened, Relation.TransGen model.Nests id target

theorem enclosed_enter (model : Model) (around : Surroundings) (id target : ShapeId) :
    Enclosed model (around.enter id) target := by
  intro opened member
  cases member

theorem Enclosed.openContainer {model : Model} {around : Surroundings} {source target : ShapeId}
    (enclosed : Enclosed model around source) (nests : model.Nests source target) :
    Enclosed model (around.openContainer source) target := by
  intro id member
  rcases List.mem_cons.mp member with rfl | outer
  · exact Relation.TransGen.single nests
  · exact (enclosed id outer).tail nests

/-- In a grounded model no list or map is entered while it is open. -/
theorem Enclosed.not_opened {model : Model} {around : Surroundings} {target : ShapeId}
    (grounded : model.Grounded) (enclosed : Enclosed model around target) :
    ¬around.opened.contains target = true := by
  intro opened
  exact grounded target (enclosed target (List.contains_iff_mem.mp opened))

theorem toFinset_enter (around : Surroundings) (id : ShapeId) :
    (around.enter id).active.toFinset = insert id around.active.toFinset := by
  simp [Surroundings.enter]

/-- On a grounded model the walk ends with the outcome of the synthesis and restores the active
structures. -/
theorem follows_synthesis (mocks : Mocks) (grounded : mocks.model.Grounded) :
    (∀ around member name, Enclosed mocks.model around member.target →
      Walk.Follows around.active.toFinset (walkValue mocks · member name)
        (memberValue mocks around member name)) ∧
    (∀ around item name count, Enclosed mocks.model around item.target →
      Walk.Follows around.active.toFinset (walkItems mocks · item name count)
        (listItems mocks around item name count)) ∧
    (∀ around members, (∀ member ∈ members, Enclosed mocks.model around member.target) →
      Walk.Follows around.active.toFinset (walkFields mocks · members)
        (structureFields mocks around members)) := by
  refine memberValue.mutual_induct_unfolding mocks
    (fun around member name draw => Enclosed mocks.model around member.target →
      Walk.Follows around.active.toFinset (walkValue mocks · member name) draw)
    (fun around item name count draw => Enclosed mocks.model around item.target →
      Walk.Follows around.active.toFinset (walkItems mocks · item name count) draw)
    (fun around members draw => (∀ member ∈ members, Enclosed mocks.model around member.target) →
      Walk.Follows around.active.toFinset (walkFields mocks · members) draw)
    ?unresolved ?primitive ?simple ?enumeration ?activeStructure ?inactiveStructure
    ?endlessList ?elementUnresolved ?activeElement ?list
    ?endlessMap ?keyUnresolved ?valueUnresolved ?map
    ?noItems ?moreItems ?noFields ?moreFields
  case unresolved =>
    intro around member name fault failed _
    refine Walk.Follows.of_succ ?_
    simp only [walkValue, failed]
    exact Walk.follows_throw _ fault
  case primitive | simple =>
    intro around member name origin kind classified _
    refine Walk.Follows.of_succ ?_
    simp only [walkValue, classified]
    exact Walk.follows_ofDraw _ _
  case enumeration =>
    intro around member name shape numeric members classified _
    refine Walk.Follows.of_succ ?_
    simp only [walkValue, classified]
    exact Walk.follows_ofDraw _ _
  case activeStructure =>
    intro around member name shape members classified isActive _
    refine Walk.Follows.of_succ ?_
    simp only [walkValue, classified]
    refine (Walk.follows_pure _ none).inspect fun depth random => if_pos ?_
    exact List.mem_toFinset.mpr (List.contains_iff_mem.mp isActive)
  case inactiveStructure =>
    intro around member name shape members classified inactive ih _
    have fresh : shape.id ∉ around.active.toFinset := by
      rw [List.mem_toFinset]
      exact mt List.contains_iff_mem.mpr inactive
    have inside := ih fun member _ => enclosed_enter mocks.model around shape.id member.target
    rw [toFinset_enter] at inside
    have record : Walk.Follows around.active.toFinset (walkStructure mocks · shape.id members) _ :=
      Walk.Follows.of_succ (inside.within fresh (MockValue.structure shape.id))
    refine Walk.Follows.of_succ ?_
    simp only [walkValue, classified]
    refine Walk.Follows.inspect ?_ fun depth random => if_neg fresh
    have made := record.map some
    simp only [bind_assoc, pure_bind] at made
    exact made
  case endlessList =>
    intro around member name shape item classified opened enclosed
    have sameId := Model.target_of_classify (Model.classifyMember_eq_ok.mp classified)
    exact (enclosed.not_opened grounded (sameId ▸ opened)).elim
  case elementUnresolved =>
    intro around member name shape item classified _ fault failed _
    refine Walk.Follows.of_succ ?_
    simp only [walkValue, classified, failed]
    exact Walk.follows_throw _ fault
  case activeElement =>
    intro around member name shape item classified _ type element isActive _
    refine Walk.Follows.of_succ ?_
    simp only [walkValue, classified, element]
    refine (Walk.follows_pure _ none).inspect fun depth random => if_pos ?_
    rw [Bool.and_eq_true] at isActive
    exact ⟨isActive.1, List.mem_toFinset.mpr (List.contains_iff_mem.mp isActive.2)⟩
  case list =>
    intro around member name shape item classified _ type element inactive ih enclosed
    have named := Model.classifyMember_eq_ok.mp classified
    have sameId := Model.target_of_classify named
    have nests := Model.nests_of_classify named rfl rfl List.mem_cons_self
    refine Walk.Follows.of_succ ?_
    simp only [walkValue, classified, element]
    refine Walk.Follows.inspect ?_ fun depth random => if_neg ?_
    · refine Walk.Follows.map (ih ?_) _
      rw [← sameId] at enclosed nests
      exact enclosed.openContainer nests
    · rwa [List.mem_toFinset, ← List.contains_iff_mem, ← Bool.and_eq_true]
  case endlessMap =>
    intro around member name shape key value classified opened enclosed
    have sameId := Model.target_of_classify (Model.classifyMember_eq_ok.mp classified)
    exact (enclosed.not_opened grounded (sameId ▸ opened)).elim
  case keyUnresolved =>
    intro around member name shape key value classified _ fault failed _
    refine Walk.Follows.of_succ ?_
    simp only [walkValue, classified, failed]
    exact Walk.follows_throw _ fault
  case valueUnresolved =>
    intro around member name shape key value classified _ keyType fault failed keyResolved _
    refine Walk.Follows.of_succ ?_
    simp only [walkValue, classified, failed, keyResolved]
    exact Walk.follows_throw _ fault
  case map =>
    intro around member name shape key value classified _ keyType valueType
      valueResolved keyResolved valueIH keyIH enclosed
    have named := Model.classifyMember_eq_ok.mp classified
    have sameId := Model.target_of_classify named
    have keyNests := Model.nests_of_classify named rfl rfl List.mem_cons_self
    have valueNests := Model.nests_of_classify named rfl rfl
      (List.mem_cons_of_mem key List.mem_cons_self)
    rw [← sameId] at enclosed keyNests valueNests
    refine Walk.Follows.of_succ ?_
    simp only [walkValue, classified, keyResolved, valueResolved]
    refine Walk.Follows.bind (valueIH (enclosed.openContainer valueNests)) (fun _ _ => rfl) ?_
    intro content
    cases content with
    | none => exact Walk.follows_pure _ none
    | some content =>
      refine Walk.Follows.bind (keyIH (enclosed.openContainer keyNests)) (fun _ _ => rfl) ?_
      intro entry
      cases entry with
      | none => exact Walk.follows_pure _ none
      | some entry => exact Walk.follows_pure _ (some (MockValue.map shape.id [(entry, content)]))
  case noItems =>
    intro around item name _
    refine Walk.Follows.of_succ ?_
    exact Walk.follows_pure _ []
  case moreItems =>
    intro around item name more firstIH restIH enclosed
    refine Walk.Follows.of_succ ?_
    refine Walk.Follows.bind (firstIH enclosed) (fun _ _ => rfl) fun first => ?_
    exact (restIH enclosed).map fun items => first.toList ++ items
  case noFields =>
    intro around _
    refine Walk.Follows.of_succ ?_
    exact Walk.follows_pure _ []
  case moreFields =>
    intro around member rest firstIH restIH enclosed
    refine Walk.Follows.of_succ ?_
    refine Walk.Follows.bind (firstIH (enclosed member List.mem_cons_self)) (fun _ _ => rfl) ?_
    intro first
    exact (restIH fun other isMember => enclosed other (List.mem_cons_of_mem member isMember)).map
      fun fields => (first.map (member, ·)).toList ++ fields

theorem follows_walkStructure (mocks : Mocks) (grounded : mocks.model.Grounded)
    (around : Surroundings) (id : ShapeId) (members : List Member) (fresh : id ∉ around.active) :
    Walk.Follows around.active.toFinset (walkStructure mocks · id members)
      (do return MockValue.structure id (← structureFields mocks (around.enter id) members)) := by
  have inside := (follows_synthesis mocks grounded).2.2 (around.enter id) members
    fun member _ => enclosed_enter mocks.model around id member.target
  rw [toFinset_enter] at inside
  refine Walk.Follows.of_succ ?_
  exact inside.within (by rwa [List.mem_toFinset]) (MockValue.structure id)

/-- On a grounded model the walk for a structure ends with what the synthesis gives. -/
theorem ends_walkOfStructure {mocks : Mocks} (grounded : mocks.model.Grounded) (id : ShapeId) :
    ∃ after, Walk.Ends (walkOfStructure mocks · id) (mocks.start id) (mocks.ofStructure id)
      after := by
  rw [ofStructure_eq]
  unfold walkOfStructure
  cases mocks.model.resolveStructure id with
  | error fault => exact ⟨mocks.start id, 0, fun _ _ => rfl⟩
  | ok shape =>
    rcases follows_walkStructure mocks grounded {} id shape.members (List.not_mem_nil)
      (mocks.random id) with ⟨after, ends, -, -⟩
    refine ⟨after, ?_⟩
    simp only [List.toFinset_nil, Bind.bind, StateT.bind, Except.bind] at ends ⊢
    cases run : structureFields mocks (Surroundings.enter {} id) shape.members (mocks.random id)
      <;> (rw [run] at ends; exact ends)

/-- On a grounded model the walk for a shape ends with what the synthesis gives. -/
theorem ends_walkSynthesize {mocks : Mocks} (grounded : mocks.model.Grounded) (id : ShapeId) :
    ∃ after, Walk.Ends (walkSynthesize mocks · id) (mocks.start id) (mocks.synthesize id)
      after := by
  rw [synthesize_eq]
  unfold walkSynthesize
  cases mocks.model.classify id with
  | error fault => exact ⟨mocks.start id, 0, fun _ _ => rfl⟩
  | ok type =>
    have enclosed : Enclosed mocks.model {} (root id).target := fun opened member => by
      cases member
    rcases (follows_synthesis mocks grounded).1 {} (root id) id.name enclosed (mocks.random id)
      with ⟨after, ends, -, -⟩
    exact ⟨after, ends⟩

end Mocks

/-! ## Paths through an instance -/

namespace MockValue

/-- The instances directly below an instance. -/
def parts : MockValue → List MockValue
  | .structure _ fields => fields.map (·.2)
  | .list _ items => items
  | .map _ entries => entries.flatMap fun entry => [entry.1, entry.2]
  | _ => []

/-- The nodes on a way down from an instance. -/
inductive Path : MockValue → List MockValue → Prop where
  | here {value} : Path value [value]
  | down {value part nodes} (isPart : part ∈ value.parts) (rest : Path part nodes) :
      Path value (value :: nodes)

def structure? : MockValue → Option ShapeId
  | .structure shape _ => some shape
  | _ => none

def structures (nodes : List MockValue) : List ShapeId :=
  nodes.filterMap structure?

theorem Path.of_leaf {value : MockValue} {nodes : List MockValue} (path : Path value nodes)
    (leaf : value.parts = []) :
    nodes = [value] := by
  cases path with
  | here => rfl
  | down isPart rest =>
    rw [leaf] at isPart
    cases isPart

end MockValue

namespace Mocks

open MockValue (Path structures)

/-- On every way down from an instance, structures are distinct and not active. -/
def Distinct (active : List ShapeId) (value : MockValue) : Prop :=
  ∀ nodes, Path value nodes →
    (structures nodes).Nodup ∧ ∀ id ∈ structures nodes, id ∉ active

variable {active : List ShapeId} {value : MockValue}

theorem distinct_of_leaf (leaf : value.parts = []) (scalar : value.structure? = none) :
    Distinct active value := by
  intro nodes path
  cases path.of_leaf leaf
  simp [structures, scalar]

theorem Scalar.distinct {target : ShapeId} {kind : SimpleKind} (scalar : Scalar target kind value) :
    Distinct active value := by
  cases scalar <;> exact distinct_of_leaf rfl rfl

/-- A node that is no structure adds nothing to the ways down from its parts. -/
theorem distinct_of_parts (container : value.structure? = none)
    (parts : ∀ part ∈ value.parts, Distinct active part) :
    Distinct active value := by
  intro nodes path
  cases path with
  | here => simp [structures, container]
  | down isPart rest =>
    have below := parts _ isPart _ rest
    simpa [structures, container] using below

theorem distinct_structure {id : ShapeId} {fields : List (Member × MockValue)}
    (inactive : id ∉ active) (parts : ∀ field ∈ fields, Distinct (id :: active) field.2) :
    Distinct active (.structure id fields) := by
  intro nodes path
  cases path with
  | here => simpa [structures, MockValue.structure?] using inactive
  | @down _ part nodes isPart rest =>
    rcases List.mem_map.mp isPart with ⟨field, isField, rfl⟩
    rcases parts field isField nodes rest with ⟨nodup, outside⟩
    have here : structures (.structure id fields :: nodes) = id :: structures nodes := rfl
    rw [here]
    constructor
    · refine List.nodup_cons.mpr ⟨?_, nodup⟩
      intro again
      exact outside id again List.mem_cons_self
    · intro found member
      rcases List.mem_cons.mp member with rfl | later
      · exact inactive
      · exact fun isActive => outside found later (List.mem_cons_of_mem id isActive)

theorem Synthesized.distinct {mocks : Mocks} {target : ShapeId} {result : Option MockValue}
    (synthesized : Synthesized mocks active target result) :
    ∀ value ∈ result, Distinct active value := by
  induction synthesized with
  | primitive classified scalar | simple classified scalar =>
    rintro value ⟨⟩
    exact scalar.distinct
  | emptyEnumeration | activeStructure | activeElement | withoutValue | withoutKey =>
    rintro value ⟨⟩
  | enumeration classified isMember =>
    rintro value ⟨⟩
    exact distinct_of_leaf rfl rfl
  | «structure» results classified inactive aligned parts ih =>
    rintro value ⟨⟩
    refine distinct_structure inactive fun field isField => ?_
    exact ih _ (mem_present.mp isField) _ rfl
  | list results classified element inactive size parts ih =>
    rintro value ⟨⟩
    refine distinct_of_parts rfl fun part isPart => ?_
    rcases List.mem_filterMap.mp isPart with ⟨result, isResult, rfl⟩
    exact ih _ isResult _ rfl
  | map classified valuePart keyPart valueIH keyIH =>
    rintro value ⟨⟩
    refine distinct_of_parts rfl fun part isPart => ?_
    simp only [MockValue.parts, List.flatMap_cons, List.flatMap_nil, List.append_nil,
      List.mem_cons, List.not_mem_nil, or_false] at isPart
    rcases isPart with rfl | rfl
    · exact keyIH _ rfl
    · exact valueIH _ rfl

/-- On a grounded model synthesis ends: the walk without guards has a result from every state, with
success or failure, and leaves the active structures as they were.  Structures are only entered
while they are not active: the walk for a member tests it, and at a root nothing is active.  The
results for a root are those of the synthesis.  In an instance no structure occurs twice on a way
down from the root. -/
theorem synthesis_terminates
    (mocks : Mocks) (grounded : mocks.model.Grounded) :
    (∀ member name before, ∃ outcome after,
      Walk.Ends (walkValue mocks · member name) before outcome after ∧
        after.active = before.active) ∧
    (∀ id members before, id ∉ before.active → ∃ outcome after,
      Walk.Ends (walkStructure mocks · id members) before outcome after ∧
        after.active = before.active) ∧
    (∀ id,
      (∃ after, Walk.Ends (walkOfStructure mocks · id) (mocks.start id) (mocks.ofStructure id)
        after) ∧
      (∃ after, Walk.Ends (walkSynthesize mocks · id) (mocks.start id) (mocks.synthesize id)
        after)) ∧
    (∀ id value, mocks.ofStructure id = .ok value ∨ mocks.synthesize id = .ok (some value) →
      ∀ nodes, Path value nodes → (structures nodes).Nodup) := by
  refine ⟨?_, ?_, ?_, ?_⟩
  · intro member name before
    let around : Surroundings := { active := before.active.toList }
    have enclosed : Enclosed mocks.model around member.target := fun opened isOpened => by
      cases isOpened
    rcases (follows_synthesis mocks grounded).1 around member name enclosed before.random with
      ⟨after, walked, kept, -⟩
    simp only [around, Finset.toList_toFinset] at walked kept
    exact ⟨_, after, walked, kept⟩
  · intro id members before fresh
    let around : Surroundings := { active := before.active.toList }
    have outside : id ∉ around.active := by simpa [around] using fresh
    rcases follows_walkStructure mocks grounded around id members outside before.random with
      ⟨after, walked, kept, -⟩
    simp only [around, Finset.toList_toFinset] at walked kept
    exact ⟨_, after, walked, kept⟩
  · intro id
    exact ⟨ends_walkOfStructure grounded id, ends_walkSynthesize grounded id⟩
  · rintro id value (run | run) nodes path
    · rcases synthesized_of_ofStructure run with
        ⟨shape, fields, -, rfl, results, -, rfl, parts⟩
      have distinct : Distinct [] (.structure id (present results)) :=
        distinct_structure List.not_mem_nil fun field isField =>
          (parts _ (mem_present.mp isField)).distinct _ rfl
      exact (distinct nodes path).1
    · exact ((synthesized_of_synthesize run).distinct value rfl nodes path).1

/-- Lists of the journal hold entries and times, and neither are lists. -/
theorem Journal.grounded : Journal.mocks.model.Grounded := by
  refine Model.grounded_of_rank
    (fun id => if id = entriesId ∨ id = timesId then 1 else 0) ?_
  decide

/-- The walk for an entry of the journal ends, although entries contain entries. -/
theorem synthesis_terminates_journal :
    Journal.mocks.model.Grounded ∧
      (∃ after, Walk.Ends (walkOfStructure Journal.mocks · Journal.entryId)
        (Journal.mocks.start Journal.entryId) (.ok Journal.sample) after) ∧
      ∀ nodes, Path Journal.sample nodes → (structures nodes).Nodup := by
  rcases synthesis_terminates Journal.mocks Journal.grounded with ⟨-, -, roots, distinct⟩
  refine ⟨Journal.grounded, ?_, ?_⟩
  · rw [← Journal.ofStructure_entry]
    exact (roots Journal.entryId).1
  · exact distinct Journal.entryId Journal.sample (Or.inl Journal.ofStructure_entry)

end Mocks

end ShapeForge
