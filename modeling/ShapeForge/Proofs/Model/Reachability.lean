import Mathlib.Data.List.Forall2
import Mathlib.Logic.Relation
import ShapeForge.Types.Reference

/-!
# The graph of data shapes

A data shape refers to others through its members: the members of a structure, the item of a list,
the key and the value of a map.  This module defines reachability in that graph, and the models in
which no list or map contains itself without a structure in between.  The classification of a
target is tied to the graph: what is not a type of the prelude is the shape that the target names,
and the members of the type are edges from the target.
-/

namespace ShapeForge

variable {ε α β : Type}

/-- Two computations in turn succeed if both do. -/
theorem bind_eq_ok {first : Except ε α} {next : α → Except ε β} {result : β} :
    first >>= next = .ok result ↔ ∃ value, first = .ok value ∧ next value = .ok result := by
  cases first with
  | error fault => simp [bind, Except.bind]
  | ok value => simp [bind, Except.bind]

/-- An outcome that evaluates to a result. -/
theorem eq_ok_of_toOption {outcome : Except ε α} {result : α}
    (evaluated : outcome.toOption = some result) :
    outcome = .ok result := by
  cases outcome with
  | error _ => cases evaluated
  | ok _ =>
    cases evaluated
    rfl

theorem map_eq_ok {outcome : Except Fault α} {change : α → β} {result : β} :
    outcome.map change = .ok result ↔ ∃ value, outcome = .ok value ∧ change value = result := by
  cases outcome with
  | error fault => simp [Except.map]
  | ok value => simp [Except.map]

theorem mapError_eq_ok {δ : Type} {outcome : Except ε α} {change : ε → δ} {result : α} :
    outcome.mapError change = .ok result ↔ outcome = .ok result := by
  cases outcome <;> simp [Except.mapError]

/-- In lists that match item by item, every item is paired with a partner. -/
theorem exists_mem_zip {relation : α → β → Prop} {items : List α} {partners : List β}
    (matched : List.Forall₂ relation items partners) :
    ∀ item ∈ items, ∃ partner, (item, partner) ∈ items.zip partners ∧ relation item partner := by
  induction matched with
  | nil => simp
  | cons first _ ih =>
    refine List.forall_mem_cons.mpr ⟨⟨_, List.mem_cons_self, first⟩, ?_⟩
    intro item isItem
    rcases ih item isItem with ⟨partner, isPair, related⟩
    exact ⟨partner, List.mem_cons_of_mem _ isPair, related⟩

theorem exists_partner {relation : α → β → Prop} {items : List α} {partners : List β}
    (matched : List.Forall₂ relation items partners) :
    ∀ item ∈ items, ∃ partner ∈ partners, relation item partner := by
  intro item isItem
  rcases exists_mem_zip matched item isItem with ⟨partner, isPair, related⟩
  exact ⟨partner, (List.of_mem_zip isPair).2, related⟩

/-! ## Members of data shapes -/

/-- The members through which a data shape refers to others. -/
def ShapeBody.parts : ShapeBody → List Member
  | .structure members => members
  | .list item => [item]
  | .map key value => [key, value]
  | _ => []

/-- Whether a shape is a list or a map. -/
def ShapeBody.isContainer : ShapeBody → Bool
  | .list _ => true
  | .map _ _ => true
  | _ => false

/-- The body of the shape that a type is; a type of the prelude has none. -/
def TypeRef.body? : TypeRef → Option ShapeBody
  | .primitive _ _ => none
  | .simple _ kind => some (.simple kind)
  | .structure _ members => some (.structure members)
  | .list _ item => some (.list item)
  | .enumeration _ numeric members => some (.enumeration numeric members)
  | .map _ key value => some (.map key value)

theorem Shape.members_of_body {shape : Shape} {members : List Member}
    (body : shape.body = .structure members) :
    shape.members = members := by
  simp [Shape.members, body]

namespace Model

variable {type : TypeRef} {member : Member}

/-! ## Reachability -/

/-- A shape refers to a target through one of its members. -/
def Refers (model : Model) (source target : ShapeId) : Prop :=
  ∃ shape, model.lookup? source = some shape ∧
    ∃ member ∈ shape.body.parts, member.target = target

/-- A target is reached from a shape through any number of members. -/
def Reaches (model : Model) : ShapeId → ShapeId → Prop :=
  Relation.ReflTransGen model.Refers

/-- A list or map refers to a target. -/
def Nests (model : Model) (source target : ShapeId) : Prop :=
  ∃ shape, model.lookup? source = some shape ∧ shape.body.isContainer = true ∧
    ∃ member ∈ shape.body.parts, member.target = target

/-- Every cycle of references passes through a structure: no list or map reaches itself through
lists and maps alone. -/
def Grounded (model : Model) : Prop :=
  ∀ id, ¬Relation.TransGen model.Nests id id

variable {model : Model} {target : ShapeId} {shape : Shape}

theorem id_of_lookup? {id : ShapeId} (found : model.lookup? id = some shape) : shape.id = id := by
  simpa using List.find?_some found

theorem Refers.reaches {source : ShapeId} (refers : model.Refers source target) :
    model.Reaches source target :=
  Relation.ReflTransGen.single refers

/-- A model is grounded if a rank falls from every list and map to what it holds. -/
theorem grounded_of_rank (rank : ShapeId → Nat)
    (falls : ∀ shape ∈ model.shapes, shape.body.isContainer = true →
      ∀ member ∈ shape.body.parts, rank member.target < rank shape.id) :
    model.Grounded := by
  have step {source target : ShapeId} (nests : model.Nests source target) :
      rank target < rank source := by
    rcases nests with ⟨shape, found, container, member, isPart, rfl⟩
    have lower := falls shape (List.mem_of_find?_eq_some found) container member isPart
    rwa [id_of_lookup? found] at lower
  have below {source target : ShapeId} (path : Relation.TransGen model.Nests source target) :
      rank target < rank source := by
    induction path with
    | single nests => exact step nests
    | tail _ nests ih => exact Nat.lt_trans (step nests) ih
  intro id cycle
  exact Nat.lt_irrefl _ (below cycle)

/-! ## Classified targets in the graph -/

theorem shape_of_typeOf (classified : typeOf shape = .ok type) :
    type.shape? = some shape ∧ type.body? = some shape.body := by
  unfold typeOf at classified
  split at classified
  case h_1 kind body =>
    split at classified
    · cases classified
      exact ⟨rfl, by rw [body]; rfl⟩
    · cases classified
  case h_6 =>
    cases classified
  all_goals
    rename_i body
    cases classified
    exact ⟨rfl, by rw [body]; rfl⟩

/-- A classified target is a type of the prelude, or the shape that it names. -/
theorem classify_cases (classified : model.classify target = .ok type) :
    (∃ kind, type = .primitive target kind) ∨
      ∃ shape, model.lookup? target = some shape ∧
        type.shape? = some shape ∧ type.body? = some shape.body := by
  unfold classify at classified
  split at classified
  · split at classified
    · split at classified
      · cases classified
        exact Or.inl ⟨_, rfl⟩
      · cases classified
    · cases classified
  · split at classified
    · cases classified
    · rename_i shape found
      exact Or.inr ⟨shape, found, shape_of_typeOf classified⟩

/-- A type other than one of the prelude is the shape that the target names. -/
theorem lookup?_of_classify (classified : model.classify target = .ok type)
    (isShape : type.shape? = some shape) :
    model.lookup? target = some shape ∧ type.body? = some shape.body := by
  rcases classify_cases classified with ⟨kind, rfl⟩ | ⟨found, defined, named, body⟩
  · cases isShape
  · rw [isShape] at named
    cases named
    exact ⟨defined, body⟩

/-- The identifier of a type is the target that was classified. -/
theorem target_of_classify (classified : model.classify target = .ok type) :
    type.target = target := by
  rcases classify_cases classified with ⟨kind, rfl⟩ | ⟨shape, defined, named, -⟩
  · rfl
  · have sameId : type.target = shape.id := by
      cases type <;> cases named <;> rfl
    rw [sameId, id_of_lookup? defined]

/-- Members of a type are edges of the graph. -/
theorem refers_of_classify {body : ShapeBody} (classified : model.classify target = .ok type)
    (isBody : type.body? = some body) (isPart : member ∈ body.parts) :
    model.Refers target member.target := by
  rcases classify_cases classified with ⟨kind, rfl⟩ | ⟨shape, defined, -, shapeBody⟩
  · cases isBody
  · rw [isBody] at shapeBody
    cases shapeBody
    exact ⟨shape, defined, member, isPart, rfl⟩

/-- Members of a list or map are edges between containers and what they hold. -/
theorem nests_of_classify {body : ShapeBody} (classified : model.classify target = .ok type)
    (isBody : type.body? = some body) (container : body.isContainer = true)
    (isPart : member ∈ body.parts) :
    model.Nests target member.target := by
  rcases classify_cases classified with ⟨kind, rfl⟩ | ⟨shape, defined, -, shapeBody⟩
  · cases isBody
  · rw [isBody] at shapeBody
    cases shapeBody
    exact ⟨shape, defined, container, member, isPart, rfl⟩

/-- The type of a member is that of its target. -/
theorem classifyMember_eq_ok :
    model.classifyMember member = .ok type ↔ model.classify member.target = .ok type := by
  unfold classifyMember
  cases model.classify member.target with
  | error fault =>
    constructor <;> intro equal <;> cases equal
  | ok found => exact Iff.rfl

theorem resolveStructure_eq_ok {id : ShapeId} (resolved : model.resolveStructure id = .ok shape) :
    model.lookup? id = some shape ∧ shape.body = .structure shape.members := by
  unfold resolveStructure resolveKind resolve at resolved
  cases found : model.lookup? id with
  | none =>
    rw [found] at resolved
    cases resolved
  | some candidate =>
    rw [found] at resolved
    simp only [bind, Except.bind] at resolved
    split at resolved
    · cases resolved
      rename_i isStructure
      refine ⟨rfl, ?_⟩
      cases body : shape.body <;>
        simp_all [Shape.kind, ShapeBody.kind, Shape.members]
    · cases resolved

end Model

end ShapeForge
