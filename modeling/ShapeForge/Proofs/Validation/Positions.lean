import ShapeForge.Proofs.Validation.Checking

/-!
# Positions of structures in an instance

A value stands in the position of a structure if it is the instance itself, or is met by descending
from an object in such a position through a member that is given: the value of a structure member,
an item of a list of structures, a value of a map of structures.  A descent is a list of steps; the
path of a report is the text of the steps, and places are compared in the order in which the check
passes them, members as they are declared, items by index, entries by key.

Each place has at most one flaw, and of two flaws one is before the other.
-/

namespace ShapeForge

theorem Shape.mem_parts (shape : Shape) {member : Member} (isMember : member ∈ shape.members) :
    member ∈ shape.body.parts := by
  cases body : shape.body with
  | «structure» members => rwa [Shape.members_of_body body] at isMember
  | _ =>
    rw [Shape.members, body] at isMember
    cases isMember

namespace Validation

variable {type elementType : TypeRef} {element member : Member}

/-! ## Places -/

/-- One step of a descent; a member comes with its index among the declared members. -/
inductive Step where
  | member (index : Nat) (key : String)
  | item (index : Nat)
  | entry (key : String)
  deriving DecidableEq

def Step.text : Step → String
  | .member _ key => "." ++ key
  | .item index => "[" ++ toString index ++ "]"
  | .entry key => "[" ++ Text.quote key ++ "]"

/-- The path that continues a path by steps. -/
def pathText (path : String) (steps : List Step) : String :=
  steps.foldl (fun text step => text ++ step.text) path

/-- The value that steps lead to. -/
def follow : Json → List Step → Option Json
  | value, [] => some value
  | .object fields, .member _ key :: rest => do follow (← Json.lookup key fields) rest
  | .object fields, .entry key :: rest => do follow (← Json.lookup key fields) rest
  | .array items, .item index :: rest => do follow (← items[index]?) rest
  | _, _ => none

/-- The order in which the steps from one place are taken. -/
def Step.Earlier : Step → Step → Prop
  | .member first _, .member second _ => first < second
  | .item first, .item second => first < second
  | .entry first, .entry second => first < second
  | _, _ => False

/-- The order in which places are passed: a place comes before everything below it, and what is
below it before what follows it. -/
def Before : List Step → List Step → Prop :=
  List.Lex Step.Earlier

variable {model : Model} {value inner : Json} {shape found : Shape} {path : String} {fault : Fault}
  {within place : List Step} {first second : Step} {fields : List (String × Json)}
  {faults : List Step → Fault → Prop}

theorem Step.Earlier.not_earlier (earlier : first.Earlier second) : ¬second.Earlier first := by
  cases first <;> cases second <;> try exact earlier.elim
  case member => exact Nat.lt_asymm earlier
  case item => exact Nat.lt_asymm earlier
  case entry => exact fun later => lt_irrefl _ (lt_trans earlier later)

theorem Step.Earlier.ne (earlier : first.Earlier second) : first ≠ second := by
  rintro rfl
  exact earlier.not_earlier earlier

theorem not_before_of_earlier (earlier : first.Earlier second) (rest other : List Step) :
    ¬Before (second :: other) (first :: rest) := by
  intro before
  cases before with
  | cons => exact earlier.ne rfl
  | rel later => exact earlier.not_earlier later

theorem before_cons {step : Step} {first second : List Step} :
    Before (step :: first) (step :: second) ↔ Before first second := by
  constructor
  · intro before
    cases before with
    | cons below => exact below
    | rel earlier => exact (earlier.ne rfl).elim
  · exact List.Lex.cons

/-- A place comes before whatever the places below it come before. -/
theorem before_of_append {steps : List Step} (before : Before (steps ++ within) place) :
    Before steps place := by
  induction steps generalizing place with
  | nil =>
    cases place with
    | nil => cases before
    | cons => exact .nil
  | cons first rest ih =>
    cases before with
    | cons below => exact .cons (ih below)
    | rel earlier => exact .rel earlier

theorem pathText_append (path : String) (first second : List Step) :
    pathText path (first ++ second) = pathText (pathText path first) second :=
  List.foldl_append

/-! ## Positions of structures -/

/-- The member that stands for the elements of a list or map. -/
def element? : TypeRef → Option Member
  | .list _ item => some item
  | .map _ _ content => some content
  | _ => none

/-- The structures that a value of a type holds directly, with the steps to them. -/
inductive Holds (model : Model) : TypeRef → Json → List Step → Shape → Json → Prop
  | itself {shape : Shape} {members : List Member} {value : Json} :
      Holds model (.structure shape members) value [] shape value
  | item {list shape : Shape} {item : Member} {members : List Member} {items : List Json}
      {index : Nat} {value : Json}
      (classified : model.classifyMember item = .ok (.structure shape members))
      (isItem : items[index]? = some value) :
      Holds model (.list list item) (.array items) [.item index] shape value
  | entry {map shape : Shape} {domain content : Member} {members : List Member}
      {fields : List (String × Json)} {key : String} {value : Json}
      (classified : model.classifyMember content = .ok (.structure shape members))
      (isEntry : Json.lookup key fields = some value) :
      Holds model (.map map domain content) (.object fields) [.entry key] shape value

theorem pairwise_zipIdx {α : Type} (items : List α) (start : Nat) :
    (items.zipIdx start).Pairwise fun first second => first.2 < second.2 := by
  induction items generalizing start with
  | nil => exact List.Pairwise.nil
  | cons head tail ih =>
    rw [List.zipIdx_cons]
    apply List.Pairwise.cons
    · intro later isLater
      exact List.le_snd_of_mem_zipIdx isLater
    · exact ih (start + 1)

theorem pairwise_entries (fields : List (String × Json)) :
    (entries fields).Pairwise fun first second => first.1 < second.1 := by
  rw [entries, List.pairwise_filterMap]
  apply (Text.pairwise_sortedDistinct (fields.map Prod.fst)).imp
  intro first second less entry isEntry other isOther
  obtain ⟨-, -, rfl⟩ := Option.map_eq_some_iff.mp isEntry
  obtain ⟨-, -, rfl⟩ := Option.map_eq_some_iff.mp isOther
  exact less

/-- The elements of a list or map with the steps to them, in the order in which they are checked. -/
def elements : TypeRef → Json → List (Step × Json)
  | .list _ _, .array items => items.zipIdx.map fun item => (.item item.2, item.1)
  | .map _ _ _, .object fields => (entries fields).map fun entry => (.entry entry.1, entry.2)
  | _, _ => []

theorem pairwise_elements (type : TypeRef) (value : Json) :
    (elements type value).Pairwise fun first second => first.1.Earlier second.1 := by
  unfold elements
  split
  · exact List.pairwise_map.mpr (pairwise_zipIdx _ 0)
  · exact List.pairwise_map.mpr (pairwise_entries _)
  · exact .nil

/-- A list or map holds its elements, where these are structures. -/
theorem holds_iff_of_element (isElement : element? type = some element)
    (classified : model.classifyMember element = .ok elementType) :
    Holds model type value within found inner ↔ ∃ members step,
      elementType = .structure found members ∧ within = [step] ∧
        (step, inner) ∈ elements type value := by
  constructor
  · intro holds
    cases holds with
    | itself => cases isElement
    | item same isItem =>
      cases isElement
      cases classified.symm.trans same
      exact ⟨_, _, rfl, rfl, List.mem_map.mpr
        ⟨(_, _), List.mem_zipIdx_iff_getElem?.mpr isItem, rfl⟩⟩
    | entry same isEntry =>
      cases isElement
      cases classified.symm.trans same
      exact ⟨_, _, rfl, rfl, List.mem_map.mpr ⟨(_, _), mem_entries.mpr isEntry, rfl⟩⟩
  · rintro ⟨members, step, rfl, rfl, isHeld⟩
    unfold elements at isHeld
    split at isHeld
    · cases isElement
      obtain ⟨item, isItem, same⟩ := List.mem_map.mp isHeld
      cases same
      exact .item classified (List.mem_zipIdx_iff_getElem?.mp isItem)
    · cases isElement
      obtain ⟨entry, isEntry, same⟩ := List.mem_map.mp isHeld
      cases same
      exact .entry classified (mem_entries.mp isEntry)
    · cases isHeld

/-- The positions of structures met from a value in the position of a structure. -/
inductive Met (model : Model) : Shape → Json → List Step → Shape → Json → Prop
  | here {shape : Shape} {value : Json} : Met model shape value [] shape value
  | through {shape found owner : Shape} {fields : List (String × Json)} {index : Nat}
      {member : Member} {type : TypeRef} {value inner last : Json} {within steps : List Step}
      (isMember : shape.members[index]? = some member)
      (isGiven : given? fields member.jsonName = some value)
      (classified : model.classifyMember member = .ok type)
      (holds : Holds model type value within found inner)
      (met : Met model found inner steps owner last) :
      Met model shape (.object fields) (.member index member.jsonName :: (within ++ steps))
        owner last

/-! ## Flaws -/

/-- The look-up of what stands for the elements of a type. -/
def resolveElement (model : Model) (type : TypeRef) : Except Fault Unit :=
  match element? type with
  | some member => (model.classifyMember member).map fun _ => ()
  | none => .ok ()

/-- The look-ups that a given member needs: its own type, and that of its elements. -/
def resolveMember (model : Model) (member : Member) : Except Fault Unit :=
  (model.classifyMember member).bind (resolveElement model)

/-- A member of an object passes: it is given if it is required, and the types of what is given are
found. -/
def MemberPasses (model : Model) (fields : List (String × Json)) (member : Member) : Prop :=
  (member.traits.isRequired = true → given? fields member.jsonName ≠ none) ∧
    (given? fields member.jsonName ≠ none → resolveMember model member = .ok ())

/-- A value in the position of a structure passes: it is an object, and its members pass. -/
def Passes (model : Model) (shape : Shape) (value : Json) : Prop :=
  ∃ fields, value = .object fields ∧ ∀ member ∈ shape.members, MemberPasses model fields member

/-- Everything that the check meets before a place passes. -/
def PassesBefore (model : Model) (shape : Shape) (root : Json) (place : List Step) : Prop :=
  ∀ steps owner value, Met model shape root steps owner value → Before steps place →
    ∃ fields, value = .object fields ∧
      ∀ index member, owner.members[index]? = some member →
        Before (steps ++ [.member index member.jsonName]) place →
          MemberPasses model fields member

/-- What is wrong with a value in the position of a structure at a path, by the place from there at
which it is noticed. -/
inductive Flaw (model : Model) (shape : Shape) (path : String) :
    Json → List Step → Fault → Prop
  | null : Flaw model shape path .null [] (.requiredField (Naming.declName shape.id) "" path)
  | other {value : Json} (notNull : value ≠ .null) (notObject : ∀ fields, value ≠ .object fields) :
      Flaw model shape path value []
        (.plain ("scaffold: " ++ path ++ ": expected an object for " ++ shape.id.text ++ ", got " ++
          decodedType value))
  | missing {fields : List (String × Json)} {index : Nat} {member : Member}
      (isMember : shape.members[index]? = some member)
      (isRequired : member.traits.isRequired = true)
      (absent : given? fields member.jsonName = none) :
      Flaw model shape path (.object fields) [.member index member.jsonName]
        (.requiredField (Naming.declName shape.id) member.name path)
  | unresolved {fields : List (String × Json)} {index : Nat} {member : Member} {fault : Fault}
      (isMember : shape.members[index]? = some member)
      (isGiven : given? fields member.jsonName ≠ none)
      (failed : resolveMember model member = .error fault) :
      Flaw model shape path (.object fields) [.member index member.jsonName] fault

/-- A flaw of something met from a value in the position of a structure at a path. -/
def Flawed (model : Model) (shape : Shape) (value : Json) (path : String) (place : List Step)
    (fault : Fault) : Prop :=
  ∃ steps owner last within, Met model shape value steps owner last ∧
    Flaw model owner (pathText path steps) last within fault ∧ place = steps ++ within

/-! ## Faults in turn -/

/-- An outcome reports the first of the faults at places, or there is none. -/
def IsFirst (faults : List Step → Fault → Prop) : Except Fault Unit → Prop
  | .ok _ => ∀ place fault, ¬faults place fault
  | .error fault => ∃ place, faults place fault ∧
      ∀ other later, faults other later → ¬Before other place

theorem IsFirst.congr {others : List Step → Fault → Prop} {outcome : Except Fault Unit}
    (same : ∀ place fault, faults place fault ↔ others place fault)
    (first : IsFirst faults outcome) :
    IsFirst others outcome := by
  have equal : faults = others := by
    funext place fault
    exact propext (same place fault)
  rwa [← equal]

theorem IsFirst.at_place (isFault : faults [] fault) : IsFirst faults (.error fault) :=
  ⟨[], isFault, fun _ _ _ before => nomatch before⟩

/-- Outcomes taken in turn report the first fault, if each reports the first below its own step and
the steps are in order. -/
theorem isFirst_inTurn {α : Type} {items : List α} {outcome : α → Except Fault Unit}
    (step : α → Step) (faults : α → List Step → Fault → Prop)
    (ordered : items.Pairwise fun first second => (step first).Earlier (step second))
    (each : ∀ item ∈ items, IsFirst (faults item) (outcome item)) :
    IsFirst (fun place fault => ∃ item ∈ items, ∃ rest, place = step item :: rest ∧
        faults item rest fault)
      (inTurn (items.map outcome)) := by
  induction items with
  | nil =>
    rintro place fault ⟨item, isItem, -⟩
    cases isItem
  | cons head tail ih =>
    obtain ⟨above, orderedTail⟩ := List.pairwise_cons.mp ordered
    have first := each head List.mem_cons_self
    have later := ih orderedTail fun item isItem => each item (List.mem_cons_of_mem _ isItem)
    rw [List.map_cons, inTurn]
    cases taken : outcome head with
    | error fault =>
      rw [taken] at first
      obtain ⟨place, isFault, least⟩ := first
      refine ⟨step head :: place, ⟨head, List.mem_cons_self, place, rfl, isFault⟩, ?_⟩
      rintro - other ⟨item, isItem, rest, rfl, isOther⟩
      rcases List.mem_cons.mp isItem with rfl | isTail
      · rw [before_cons]
        exact least rest other isOther
      · exact not_before_of_earlier (above item isTail) _ _
    | ok done =>
      rw [taken] at first
      refine IsFirst.congr ?_ later
      intro place fault
      constructor
      · rintro ⟨item, isItem, rest⟩
        exact ⟨item, List.mem_cons_of_mem _ isItem, rest⟩
      · rintro ⟨item, isItem, rest, isPlace, isFault⟩
        rcases List.mem_cons.mp isItem with rfl | isTail
        · exact (first rest fault isFault).elim
        · exact ⟨item, isTail, rest, isPlace, isFault⟩

/-! ## The faults of a type and of a member -/

/-- The faults below a member's value of a type. -/
def HeldFault (model : Model) (type : TypeRef) (value : Json) (path : String)
    (place : List Step) (fault : Fault) : Prop :=
  (resolveElement model type = .error fault ∧ place = []) ∨
    ∃ within found inner rest, Holds model type value within found inner ∧
      Flawed model found inner (pathText path within) rest fault ∧ place = within ++ rest

/-- The faults of a member of an object. -/
def MemberFault (model : Model) (shape : Shape) (fields : List (String × Json)) (path : String)
    (member : Member) (place : List Step) (fault : Fault) : Prop :=
  (member.traits.isRequired = true ∧ given? fields member.jsonName = none ∧ place = [] ∧
      fault = .requiredField (Naming.declName shape.id) member.name path) ∨
    ∃ value, given? fields member.jsonName = some value ∧
      ((model.classifyMember member = .error fault ∧ place = []) ∨
        ∃ type, model.classifyMember member = .ok type ∧
          HeldFault model type value (path ++ "." ++ member.jsonName) place fault)

theorem resolveMember_eq_error :
    resolveMember model member = .error fault ↔
      model.classifyMember member = .error fault ∨
        ∃ type, model.classifyMember member = .ok type ∧ resolveElement model type = .error fault := by
  unfold resolveMember
  cases model.classifyMember member with
  | error other => simp [Except.bind]
  | ok type => simp [Except.bind]

/-- The flaws of an object are the faults of its members. -/
theorem flawed_object :
    Flawed model shape (.object fields) path place fault ↔
      ∃ index member rest, shape.members[index]? = some member ∧
        place = .member index member.jsonName :: rest ∧
          MemberFault model shape fields path member rest fault := by
  constructor
  · rintro ⟨steps, owner, last, within, met, flaw, rfl⟩
    cases met with
    | here =>
      cases flaw with
      | other notNull notObject => exact (notObject fields rfl).elim
      | missing isMember isRequired absent =>
        exact ⟨_, _, [], isMember, rfl, Or.inl ⟨isRequired, absent, rfl, rfl⟩⟩
      | unresolved isMember isGiven failed =>
        obtain ⟨value, given⟩ := Option.ne_none_iff_exists'.mp isGiven
        refine ⟨_, _, [], isMember, rfl, Or.inr ⟨value, given, ?_⟩⟩
        rcases resolveMember_eq_error.mp failed with failed | ⟨type, classified, failed⟩
        · exact Or.inl ⟨failed, rfl⟩
        · exact Or.inr ⟨type, classified, Or.inl ⟨failed, rfl⟩⟩
    | through isMember isGiven classified holds met =>
      rename_i index member type value inner inside further
      refine ⟨index, member, inside ++ (further ++ within), isMember, by simp, Or.inr
        ⟨value, isGiven, Or.inr ⟨type, classified, Or.inr
          ⟨inside, _, inner, further ++ within, holds, ⟨further, owner, last, within, met, ?_, rfl⟩,
            rfl⟩⟩⟩⟩
      rw [← pathText_append]
      simpa [pathText, Step.text, String.append_assoc] using flaw
  · rintro ⟨index, member, rest, isMember, rfl, faulty⟩
    rcases faulty with ⟨isRequired, absent, rfl, rfl⟩ | ⟨value, given, faulty⟩
    · exact ⟨[], shape, _, _, .here, .missing isMember isRequired absent, rfl⟩
    have isGiven : given? fields member.jsonName ≠ none := by
      rw [given]
      exact Option.some_ne_none value
    rcases faulty with ⟨failed, rfl⟩ | ⟨type, classified, ⟨failed, rfl⟩ | held⟩
    · exact ⟨[], shape, _, _, .here,
        .unresolved isMember isGiven (resolveMember_eq_error.mpr (Or.inl failed)), rfl⟩
    · exact ⟨[], shape, _, _, .here,
        .unresolved isMember isGiven
          (resolveMember_eq_error.mpr (Or.inr ⟨type, classified, failed⟩)), rfl⟩
    · obtain ⟨inside, found, inner, -, holds, ⟨further, owner, last, within, met, flaw, rfl⟩, rfl⟩ :=
        held
      refine ⟨_, owner, last, within, .through isMember given classified holds met, ?_, by simp⟩
      rw [← pathText_append] at flaw
      simpa [pathText, Step.text, String.append_assoc] using flaw

theorem resolveElement_of_classifyMember (isElement : element? type = some element)
    (classified : model.classifyMember element = .ok elementType) :
    resolveElement model type = .ok () := by
  rw [resolveElement, isElement]
  simp only [classified, Except.map]

/-- If the elements of a type are found, all faults are below what a value holds. -/
theorem heldFault_of_element (isElement : element? type = some element)
    (classified : model.classifyMember element = .ok elementType) :
    HeldFault model type value path place fault ↔
      ∃ within found inner rest, Holds model type value within found inner ∧
        Flawed model found inner (pathText path within) rest fault ∧ place = within ++ rest := by
  rw [HeldFault, resolveElement_of_classifyMember isElement classified]
  simp

/-! ## Descent in the instance -/

theorem depth_of_given {key : String} (isGiven : given? fields key = some value) :
    value.depth < (Json.object fields).depth := by
  obtain ⟨found, -⟩ := Option.filter_eq_some_iff.mp isGiven
  have lower := Json.depth_le_depthFields (Json.mem_of_lookup found)
  rw [Json.depth]
  omega

theorem Holds.depth_le (holds : Holds model type value within found inner) :
    inner.depth ≤ value.depth := by
  cases holds with
  | itself => exact Nat.le_refl _
  | item _ isItem =>
    rw [Json.depth]
    exact Nat.le_succ_of_le (Json.depth_le_depthItems (List.mem_of_getElem? isItem))
  | entry _ isEntry =>
    rw [Json.depth]
    exact Nat.le_succ_of_le (Json.depth_le_depthFields (Json.mem_of_lookup isEntry))

/-- What a type holds is reached from the shape that has a member of the type. -/
theorem Holds.reaches {target : ShapeId} (holds : Holds model type value within found inner)
    (classified : model.classify target = .ok type) :
    ∃ id, model.Reaches target id ∧ model.lookup? id = some found := by
  cases holds with
  | itself =>
    exact ⟨target, .refl, (Model.lookup?_of_classify classified rfl).1⟩
  | item itemType =>
    have refers := Model.refers_of_classify classified rfl List.mem_cons_self
    rw [Model.classifyMember_eq_ok] at itemType
    exact ⟨_, refers.reaches, (Model.lookup?_of_classify itemType rfl).1⟩
  | entry contentType =>
    have refers := Model.refers_of_classify classified rfl
      (List.mem_cons_of_mem _ List.mem_cons_self)
    rw [Model.classifyMember_eq_ok] at contentType
    exact ⟨_, refers.reaches, (Model.lookup?_of_classify contentType rfl).1⟩

/-! ## One fault at a place -/

/-- Two faults at places: one place comes before the other, or the faults are the same. -/
def Comparable (faults : List Step → Fault → Prop) : Prop :=
  ∀ place other fault later, faults place fault → faults other later →
    Before place other ∨ Before other place ∨ (place = other ∧ fault = later)

/-- Where faults are comparable, the one reported is the only one with none before it. -/
theorem IsFirst.eq_error {outcome : Except Fault Unit} (first : IsFirst faults outcome)
    (comparable : Comparable faults) :
    outcome = .error fault ↔
      ∃ place, faults place fault ∧ ∀ other later, faults other later → ¬Before other place := by
  constructor
  · rintro rfl
    exact first
  · rintro ⟨place, isFault, least⟩
    cases outcome with
    | ok => exact (first place fault isFault).elim
    | error reported =>
      obtain ⟨other, isReported, alsoLeast⟩ := first
      rcases comparable _ _ _ _ isReported isFault with before | before | ⟨-, rfl⟩
      · exact (least other reported isReported before).elim
      · exact (alsoLeast place fault isFault before).elim
      · rfl

/-- Faults below steps of which one is always earlier than another are comparable. -/
theorem compare_cons {other : List Step} {later : Fault}
    (ordered : first.Earlier second ∨ second.Earlier first ∨
      (first = second ∧ (Before place other ∨ Before other place ∨
        (place = other ∧ fault = later)))) :
    Before (first :: place) (second :: other) ∨ Before (second :: other) (first :: place) ∨
      (first :: place = second :: other ∧ fault = later) := by
  rcases ordered with earlier | earlier | ⟨rfl, before | before | ⟨rfl, rfl⟩⟩
  · exact Or.inl (.rel earlier)
  · exact Or.inr (Or.inl (.rel earlier))
  · exact Or.inl (.cons before)
  · exact Or.inr (Or.inl (.cons before))
  · exact Or.inr (Or.inr ⟨rfl, rfl⟩)

theorem Holds.resolveElement_eq_ok (holds : Holds model type value within found inner) :
    resolveElement model type = .ok () := by
  cases holds with
  | itself => rfl
  | item classified => exact resolveElement_of_classifyMember rfl classified
  | entry classified => exact resolveElement_of_classifyMember rfl classified

/-- The faults of a value of a type are comparable if those of what it holds are. -/
theorem comparable_heldFault
    (below : ∀ within found inner, Holds model type value within found inner →
      ∀ path, Comparable (Flawed model found inner path)) :
    Comparable (HeldFault model type value path) := by
  rintro place other fault later (⟨failed, rfl⟩ | ⟨within, found, inner, rest, holds, flawed, rfl⟩)
    (⟨alsoFailed, rfl⟩ | ⟨within', found', inner', rest', holds', flawed', rfl⟩)
  · cases failed.symm.trans alsoFailed
    exact Or.inr (Or.inr ⟨rfl, rfl⟩)
  · cases failed.symm.trans holds'.resolveElement_eq_ok
  · cases alsoFailed.symm.trans holds.resolveElement_eq_ok
  · have compare := below within found inner holds
    cases holds with
    | itself =>
      cases holds'
      exact compare path _ _ _ _ flawed flawed'
    | item classified isItem =>
      rename_i members items index
      cases holds' with
      | item classified' isItem' =>
        rename_i members' index'
        cases classified.symm.trans classified'
        apply compare_cons
        rcases Nat.lt_trichotomy index index' with less | rfl | greater
        · exact Or.inl less
        · cases isItem.symm.trans isItem'
          exact Or.inr (Or.inr ⟨rfl, compare _ _ _ _ _ flawed flawed'⟩)
        · exact Or.inr (Or.inl greater)
    | entry classified isEntry =>
      rename_i members fields key
      cases holds' with
      | entry classified' isEntry' =>
        rename_i members' key'
        cases classified.symm.trans classified'
        apply compare_cons
        rcases lt_trichotomy key key' with less | rfl | greater
        · exact Or.inl less
        · cases isEntry.symm.trans isEntry'
          exact Or.inr (Or.inr ⟨rfl, compare _ _ _ _ _ flawed flawed'⟩)
        · exact Or.inr (Or.inl greater)

/-- The faults of a member are comparable if those of what it holds are. -/
theorem comparable_memberFault
    (below : ∀ value type within found inner, given? fields member.jsonName = some value →
      Holds model type value within found inner →
        ∀ path, Comparable (Flawed model found inner path)) :
    Comparable (MemberFault model shape fields path member) := by
  rintro place other fault later (⟨-, absent, rfl, rfl⟩ | ⟨value, isGiven, faulty⟩)
    (⟨-, alsoAbsent, rfl, rfl⟩ | ⟨value', isGiven', faulty'⟩)
  · exact Or.inr (Or.inr ⟨rfl, rfl⟩)
  · cases absent.symm.trans isGiven'
  · cases alsoAbsent.symm.trans isGiven
  cases isGiven.symm.trans isGiven'
  rcases faulty with ⟨failed, rfl⟩ | ⟨type, classified, held⟩ <;>
    rcases faulty' with ⟨failed', rfl⟩ | ⟨type', classified', held'⟩
  · cases failed.symm.trans failed'
    exact Or.inr (Or.inr ⟨rfl, rfl⟩)
  · cases failed.symm.trans classified'
  · cases failed'.symm.trans classified
  · cases classified.symm.trans classified'
    exact comparable_heldFault (fun within found inner => below value type within found inner isGiven)
      _ _ _ _ held held'

/-- What is no object in the position of a structure has one flaw. -/
theorem comparable_of_other (notObject : ∀ fields, value ≠ .object fields) :
    Comparable (Flawed model shape value path) := by
  rintro - - fault later ⟨steps, owner, last, within, met, flaw, rfl⟩
    ⟨steps', owner', last', within', met', flaw', rfl⟩
  cases met with
  | through => exact (notObject _ rfl).elim
  | here =>
    cases met' with
    | through => exact (notObject _ rfl).elim
    | here =>
      cases flaw with
      | null =>
        cases flaw' with
        | null => exact Or.inr (Or.inr ⟨rfl, rfl⟩)
        | other notNull => exact (notNull rfl).elim
      | other notNull =>
        cases flaw' with
        | null => exact (notNull rfl).elim
        | other => exact Or.inr (Or.inr ⟨rfl, rfl⟩)
        | missing | unresolved => exact (notObject _ rfl).elim
      | missing | unresolved => exact (notObject _ rfl).elim

/-- Of two flaws of what is met, one is before the other or they are the same. -/
theorem comparable_flawed (shape : Shape) (value : Json) (path : String) :
    Comparable (Flawed model shape value path) := by
  -- The induction is on a bound of the depth: what a member holds is shallower than the object.
  obtain ⟨bound, deep⟩ : ∃ bound, value.depth < bound := ⟨_, Nat.lt_succ_self _⟩
  induction bound generalizing shape value path with
  | zero => exact (Nat.not_lt_zero _ deep).elim
  | succ bound ih =>
    by_cases isObject : ∃ fields, value = .object fields
    · obtain ⟨fields, rfl⟩ := isObject
      intro place other fault later flawed flawed'
      obtain ⟨index, member, rest, isMember, rfl, faulty⟩ := flawed_object.mp flawed
      obtain ⟨index', member', rest', isMember', rfl, faulty'⟩ := flawed_object.mp flawed'
      apply compare_cons
      rcases Nat.lt_trichotomy index index' with less | rfl | greater
      · exact Or.inl less
      · cases isMember.symm.trans isMember'
        refine Or.inr (Or.inr ⟨rfl, comparable_memberFault ?_ _ _ _ _ faulty faulty'⟩)
        intro given type within found inner isGiven holds path
        have lower := depth_of_given isGiven
        have notHigher := holds.depth_le
        exact ih found inner path (by omega)
      · exact Or.inr (Or.inl greater)
    · exact comparable_of_other fun fields same => isObject ⟨fields, same⟩

/-! ## Descents and what passes -/

theorem Holds.follow (holds : Holds model type value within found inner) (rest : List Step) :
    follow value (within ++ rest) = follow inner rest := by
  cases holds with
  | itself => rfl
  | item _ isItem => simp [Validation.follow, isItem]
  | entry _ isEntry => simp [Validation.follow, isEntry]

/-- The steps of a descent lead to the value that is met. -/
theorem Met.follow {owner : Shape} {root : Json} {steps : List Step}
    (met : Met model shape root steps owner value) :
    follow root steps = some value := by
  induction met with
  | here => simp [Validation.follow]
  | through isMember isGiven classified holds met ih =>
    obtain ⟨found, -⟩ := Option.filter_eq_some_iff.mp isGiven
    simp only [Validation.follow, found]
    exact (holds.follow _).trans ih

/-- A member passes if it has no flaw. -/
theorem memberPasses_of_flawless {index : Nat} (isMember : shape.members[index]? = some member)
    (flawless : ∀ fault,
      ¬Flaw model shape path (.object fields) [.member index member.jsonName] fault) :
    MemberPasses model fields member := by
  constructor
  · intro isRequired absent
    exact flawless _ (.missing isMember isRequired absent)
  · intro isGiven
    cases resolved : resolveMember model member with
    | error fault => exact (flawless fault (.unresolved isMember isGiven resolved)).elim
    | ok _ => rfl

theorem object_of_flawless (flawless : ∀ fault, ¬Flaw model shape path value [] fault) :
    ∃ fields, value = .object fields := by
  cases value with
  | object fields => exact ⟨fields, rfl⟩
  | null => exact (flawless _ .null).elim
  | bool | number | string | array =>
    exact (flawless _ (.other (by simp) (by simp))).elim

/-- A value passes exactly if it has no flaw. -/
theorem passes_iff_flawless :
    Passes model shape value ↔ ∀ within fault, ¬Flaw model shape path value within fault := by
  constructor
  · rintro ⟨fields, rfl, members⟩ within fault flaw
    cases flaw with
    | other notNull notObject => exact notObject fields rfl
    | missing isMember isRequired absent =>
      exact (members _ (List.mem_of_getElem? isMember)).1 isRequired absent
    | unresolved isMember isGiven failed =>
      cases failed.symm.trans ((members _ (List.mem_of_getElem? isMember)).2 isGiven)
  · intro flawless
    obtain ⟨fields, rfl⟩ := object_of_flawless (flawless [])
    refine ⟨fields, rfl, fun member isMember => ?_⟩
    obtain ⟨index, isAt⟩ := List.getElem?_of_mem isMember
    exact memberPasses_of_flawless isAt (flawless _)

/-- Everything before a place passes exactly if no flaw is before it. -/
theorem passesBefore_iff {root : Json} (path : String) :
    PassesBefore model shape root place ↔
      ∀ other fault, Flawed model shape root path other fault → ¬Before other place := by
  constructor
  · rintro passes - fault ⟨steps, owner, value, within, met, flaw, rfl⟩ before
    obtain ⟨fields, rfl, members⟩ := passes steps owner value met (before_of_append before)
    cases flaw with
    | other _ notObject => exact notObject fields rfl
    | missing isMember isRequired absent =>
      exact (members _ _ isMember before).1 isRequired absent
    | unresolved isMember isGiven failed =>
      cases failed.symm.trans ((members _ _ isMember before).2 isGiven)
  · intro first steps owner value met before
    have flawless : ∀ within fault, Before (steps ++ within) place →
        ¬Flaw model owner (pathText path steps) value within fault := by
      intro within fault earlier flaw
      exact first _ fault ⟨steps, owner, value, within, met, flaw, rfl⟩ earlier
    obtain ⟨fields, rfl⟩ := object_of_flawless fun fault =>
      flawless [] fault (by rwa [List.append_nil])
    refine ⟨fields, rfl, fun index member isMember earlier => ?_⟩
    exact memberPasses_of_flawless isMember fun fault => flawless _ fault earlier

end Validation

end ShapeForge
