import ShapeForge.Proofs.Mock.Synthesized

/-!
# The skeleton of an instance

Which members an instance has, how long its lists are and which shapes and kinds its nodes have
follows from the graph of shapes and the structures around a node; the generator decides only the
scalars and which member of an enumeration is taken.  `Mocks.Available` says which targets have an
instance inside active structures, and `Mocks.Fits` says that every node of an instance is as the
graph and the list size demand.  `MockValue.skeleton` erases what was drawn: skeletons, and
failures, are the same for all seeds.
-/

namespace ShapeForge

namespace Mocks

variable {active : List ShapeId} {target : ShapeId}

/-! ## Targets that have an instance -/

/-- A target has an instance inside active structures. -/
inductive Available (model : Model) (active : List ShapeId) : ShapeId → Prop where
  | primitive {target kind}
      (classified : model.classify target = .ok (.primitive target kind)) :
      Available model active target
  | simple {target shape kind}
      (classified : model.classify target = .ok (.simple shape kind)) :
      Available model active target
  | enumeration {target shape numeric members}
      (classified : model.classify target = .ok (.enumeration shape numeric members))
      (nonempty : members ≠ []) :
      Available model active target
  | structure {target shape members}
      (classified : model.classify target = .ok (.structure shape members))
      (inactive : target ∉ active) :
      Available model active target
  | list {target shape item}
      (classified : model.classify target = .ok (.list shape item))
      (inactive : ¬∃ element members,
        model.classify item.target = .ok (.structure element members) ∧ item.target ∈ active) :
      Available model active target
  | map {target shape key value}
      (classified : model.classify target = .ok (.map shape key value))
      (valuePart : Available model active value.target)
      (keyPart : Available model active key.target) :
      Available model active target

/-- What it takes for a target of a type to have an instance. -/
def AvailableAs (model : Model) (active : List ShapeId) (target : ShapeId) : TypeRef → Prop
  | .primitive _ _ => True
  | .simple _ _ => True
  | .enumeration _ _ members => members ≠ []
  | .structure _ _ => target ∉ active
  | .list _ item => ¬∃ element members,
      model.classify item.target = .ok (.structure element members) ∧ item.target ∈ active
  | .map _ key value =>
    Available model active value.target ∧ Available model active key.target

theorem available_iff {model : Model} {type : TypeRef}
    (classified : model.classify target = .ok type) :
    Available model active target ↔ AvailableAs model active target type := by
  constructor
  · intro available
    cases available with
    | primitive found =>
      cases classified.symm.trans found
      trivial
    | simple found =>
      cases classified.symm.trans found
      trivial
    | enumeration found nonempty =>
      cases classified.symm.trans found
      exact nonempty
    | «structure» found inactive =>
      cases classified.symm.trans found
      exact inactive
    | list found inactive =>
      cases classified.symm.trans found
      exact inactive
    | map found valuePart keyPart =>
      cases classified.symm.trans found
      exact ⟨valuePart, keyPart⟩
  · intro available
    cases type with
    | primitive named kind =>
      cases Model.target_of_classify classified
      exact .primitive classified
    | simple shape kind => exact .simple classified
    | enumeration shape numeric members => exact .enumeration classified available
    | «structure» shape members => exact .structure classified available
    | list shape item => exact .list classified available
    | map shape key value => exact .map classified available.1 available.2

/-! ## Instances as the graph demands -/

section Fits

open scoped Classical

/-- Every node of an instance of a target inside active structures is as the graph of shapes and
the list size demand. -/
inductive Fits (mocks : Mocks) : List ShapeId → ShapeId → MockValue → Prop where
  | primitive {active target kind value}
      (classified : mocks.model.classify target = .ok (.primitive target kind))
      (scalar : Scalar target kind value) :
      Fits mocks active target value
  | simple {active target shape kind value}
      (classified : mocks.model.classify target = .ok (.simple shape kind))
      (scalar : Scalar target kind value) :
      Fits mocks active target value
  | enumeration {active target shape numeric members member}
      (classified : mocks.model.classify target = .ok (.enumeration shape numeric members))
      (isMember : member ∈ members) :
      Fits mocks active target (chosen target numeric member)
  /-- Exactly the members that have an instance inside the structure are there, in order. -/
  | structure {active target shape members fields}
      (classified : mocks.model.classify target = .ok (.structure shape members))
      (exact : fields.map Prod.fst =
        members.filter fun member => Available mocks.model (target :: active) member.target)
      (parts : ∀ field ∈ fields, Fits mocks (target :: active) field.1.target field.2) :
      Fits mocks active target (.structure target fields)
  /-- A list has the asked number of items if its items have instances, and none otherwise. -/
  | list {active target shape item items}
      (classified : mocks.model.classify target = .ok (.list shape item))
      (size : items.length =
        if Available mocks.model active item.target then mocks.listSize else 0)
      (parts : ∀ value ∈ items, Fits mocks active item.target value) :
      Fits mocks active target (.list target items)
  | map {active target shape key value entry content}
      (classified : mocks.model.classify target = .ok (.map shape key value))
      (keyPart : Fits mocks active key.target entry)
      (valuePart : Fits mocks active value.target content) :
      Fits mocks active target (.map target [(entry, content)])

/-- The fields of a structure are those of the members that have an instance inside it, in
order. -/
def FitsFields
    (mocks : Mocks) (active : List ShapeId) (members : List Member)
    (fields : List (Member × MockValue)) : Prop :=
  fields.map Prod.fst =
      members.filter (fun member => Available mocks.model active member.target) ∧
    ∀ field ∈ fields, Fits mocks active field.1.target field.2

end Fits

/-- What synthesis gives is there exactly if the target has an instance, and then it fits. -/
def Settled (mocks : Mocks) (active : List ShapeId) (target : ShapeId) :
    Option MockValue → Prop
  | some value => Available mocks.model active target ∧ Fits mocks active target value
  | none => ¬Available mocks.model active target

theorem Settled.isSome_iff {mocks : Mocks} {result : Option MockValue}
    (settled : Settled mocks active target result) :
    result.isSome = true ↔ Available mocks.model active target := by
  cases result with
  | none => simpa [Settled] using settled
  | some value => simpa [Settled] using settled.1

/-! ## Synthesized instances fit -/

section Present

open scoped Classical

theorem map_fst_present {results : List (Member × Option MockValue)} {keep : Member → Prop}
    (agrees : ∀ result ∈ results, result.2.isSome = true ↔ keep result.1) :
    (present results).map Prod.fst = (results.map Prod.fst).filter fun member => keep member := by
  induction results with
  | nil => rfl
  | cons result rest ih =>
    have first := agrees result List.mem_cons_self
    have others := ih fun other member => agrees other (List.mem_cons_of_mem _ member)
    rcases result with ⟨member, value | value⟩
    · have left : ¬keep member := fun kept => by simpa using first.mpr kept
      simpa [present, left] using others
    · have kept : keep member := first.mp rfl
      simpa [present, kept] using others

theorem length_filterMap_id {results : List (Option MockValue)} {keep : Prop}
    (agrees : ∀ result ∈ results, result.isSome = true ↔ keep) :
    (results.filterMap id).length = if keep then results.length else 0 := by
  induction results with
  | nil => simp
  | cons result rest ih =>
    have first := agrees result List.mem_cons_self
    have others := ih fun other member => agrees other (List.mem_cons_of_mem _ member)
    cases result with
    | none =>
      have left : ¬keep := fun kept => by simpa using first.mpr kept
      simpa [left] using others
    | some value =>
      have kept : keep := first.mp rfl
      simpa [kept] using others

theorem fitsFields_of_settled
    {mocks : Mocks} {active : List ShapeId} {results : List (Member × Option MockValue)}
    (settled : ∀ result ∈ results, Settled mocks active result.1.target result.2) :
    FitsFields mocks active (results.map Prod.fst) (present results) := by
  constructor
  · exact map_fst_present fun result member => (settled result member).isSome_iff
  · intro field member
    exact (settled _ (mem_present.mp member)).2

end Present

theorem Synthesized.settled {mocks : Mocks} {result : Option MockValue}
    (synthesized : Synthesized mocks active target result) :
    Settled mocks active target result := by
  induction synthesized with
  | primitive classified scalar =>
    exact ⟨.primitive classified, .primitive classified scalar⟩
  | simple classified scalar =>
    cases Model.target_of_classify classified
    exact ⟨.simple classified, .simple classified scalar⟩
  | emptyEnumeration classified =>
    intro available
    exact (available_iff classified).mp available rfl
  | enumeration classified isMember =>
    cases Model.target_of_classify classified
    exact ⟨.enumeration classified (List.ne_nil_of_mem isMember),
      .enumeration classified isMember⟩
  | activeStructure classified isActive =>
    cases Model.target_of_classify classified
    intro available
    exact (available_iff classified).mp available isActive
  | «structure» results classified inactive aligned parts ih =>
    cases Model.target_of_classify classified
    have fits := fitsFields_of_settled ih
    rw [aligned] at fits
    exact ⟨.structure classified inactive, .structure classified fits.1 fits.2⟩
  | activeElement classified element isStructure isActive =>
    rename_i type
    have sameTarget := Model.target_of_classify element
    intro available
    refine (available_iff classified).mp available ?_
    cases type <;> cases isStructure
    exact ⟨_, _, element, sameTarget ▸ isActive⟩
  | list results classified element inactive size parts ih =>
    cases Model.target_of_classify classified
    refine ⟨.list classified ?_, .list classified ?_ ?_⟩
    · rintro ⟨inner, members, isStructure, isActive⟩
      cases element.symm.trans isStructure
      refine inactive ⟨rfl, ?_⟩
      rwa [Model.target_of_classify element]
    · rw [← size]
      exact length_filterMap_id fun result member => (ih result member).isSome_iff
    · intro value member
      rcases List.mem_filterMap.mp member with ⟨result, isResult, rfl⟩
      exact (ih _ isResult).2
  | withoutValue classified content ih =>
    intro available
    exact ih ((available_iff classified).mp available).1
  | withoutKey classified entry ih =>
    intro available
    exact ih ((available_iff classified).mp available).2
  | map classified valuePart keyPart valueIH keyIH =>
    cases Model.target_of_classify classified
    exact ⟨.map classified valueIH.1 keyIH.1, .map classified keyIH.2 valueIH.2⟩

end Mocks

/-! ## What no seed decides -/

namespace MockValue

mutual

/-- The instance without what was drawn: shapes, kinds, members and lengths. -/
def skeleton : MockValue → MockValue
  | .string shape kind _ => .string shape kind ""
  | .int shape kind _ => .int shape kind 0
  | .float shape kind _ => .float shape kind (.finite false 0 0)
  | .bool shape kind _ => .bool shape kind false
  | .timestamp shape kind => .timestamp shape kind
  | .blob shape kind text => .blob shape kind text
  | .enumeration shape _ _ _ => .enumeration shape "" "" 0
  | .structure shape fields => .structure shape (skeletonFields fields)
  | .list shape items => .list shape (skeletonItems items)
  | .map shape entries => .map shape (skeletonEntries entries)
  | .unknown shape number => .unknown shape number

def skeletonFields : List (Member × MockValue) → List (Member × MockValue)
  | [] => []
  | (member, value) :: rest => (member, skeleton value) :: skeletonFields rest

def skeletonItems : List MockValue → List MockValue
  | [] => []
  | item :: rest => skeleton item :: skeletonItems rest

def skeletonEntries : List (MockValue × MockValue) → List (MockValue × MockValue)
  | [] => []
  | (key, value) :: rest => (skeleton key, skeleton value) :: skeletonEntries rest

end

theorem skeletonItems_append (left right : List MockValue) :
    skeletonItems (left ++ right) = skeletonItems left ++ skeletonItems right := by
  induction left with
  | nil => rfl
  | cons item rest ih => simp [skeletonItems, ih]

theorem skeletonFields_append (left right : List (Member × MockValue)) :
    skeletonFields (left ++ right) = skeletonFields left ++ skeletonFields right := by
  induction left with
  | nil => rfl
  | cons field rest ih => simp [skeletonFields, ih]

end MockValue

namespace Mocks

theorem alike_scalar (target : ShapeId) (kind : SimpleKind) (name : String) :
    Draw.Alike MockValue.skeleton (scalar target kind name) (scalar target kind name) := by
  cases kind with
  | timestamp => exact Draw.Alike.pure rfl
  | blob => exact Draw.Alike.pure rfl
  | _ =>
    exact Draw.Alike.bindBelow (by decide) fun _ _ _ _ => Draw.Alike.pure rfl

theorem alike_choice (target : ShapeId) (numeric : Bool) (members : List EnumMember) :
    Draw.Alike (Option.map MockValue.skeleton) (choice target numeric members)
      (choice target numeric members) := by
  unfold choice
  cases members with
  | nil => exact Draw.Alike.pure rfl
  | cons first rest =>
    refine Draw.Alike.bindBelow (by simp) fun left right leftBounded rightBounded => ?_
    rw [List.getElem?_eq_getElem leftBounded, List.getElem?_eq_getElem rightBounded]
    exact Draw.Alike.pure rfl

theorem alike_some {left right : Draw MockValue}
    (alike : Draw.Alike MockValue.skeleton left right) :
    Draw.Alike (Option.map MockValue.skeleton)
      (do return some (← left)) (do return some (← right)) :=
  alike.bind fun _ _ same => Draw.Alike.pure (congrArg some same)

/-- No state of the generator changes a skeleton or a failure. -/
theorem alike_synthesis (mocks : Mocks) :
    (∀ around member name,
      Draw.Alike (Option.map MockValue.skeleton) (memberValue mocks around member name)
        (memberValue mocks around member name)) ∧
    (∀ around item name count,
      Draw.Alike MockValue.skeletonItems (listItems mocks around item name count)
        (listItems mocks around item name count)) ∧
    (∀ around members,
      Draw.Alike MockValue.skeletonFields (structureFields mocks around members)
        (structureFields mocks around members)) := by
  refine memberValue.mutual_induct_unfolding mocks
    (fun _ _ _ draw => Draw.Alike (Option.map MockValue.skeleton) draw draw)
    (fun _ _ _ _ draw => Draw.Alike MockValue.skeletonItems draw draw)
    (fun _ _ draw => Draw.Alike MockValue.skeletonFields draw draw)
    ?unresolved ?primitive ?simple ?enumeration ?activeStructure ?inactiveStructure
    ?endlessList ?elementUnresolved ?activeElement ?list
    ?endlessMap ?keyUnresolved ?valueUnresolved ?map
    ?noItems ?moreItems ?noFields ?moreFields
  case primitive =>
    intro around member name target kind _
    exact alike_some (alike_scalar target kind name)
  case simple =>
    intro around member name shape kind _
    exact alike_some (alike_scalar shape.id kind name)
  case enumeration =>
    intro around member name shape numeric members _
    exact alike_choice shape.id numeric members
  case inactiveStructure =>
    intro around member name shape members _ _ ih
    refine ih.bind fun fields fields' same => Draw.Alike.pure ?_
    simp [MockValue.skeleton, same]
  case list =>
    intro around member name shape item _ _ type _ _ ih
    refine ih.bind fun items items' same => Draw.Alike.pure ?_
    simp [MockValue.skeleton, same]
  case map =>
    intro around member name shape key value _ _ keyType valueType _ _ valueIH keyIH
    refine valueIH.bind fun content content' sameContent => ?_
    rcases content with - | content <;> rcases content' with - | content' <;>
      simp only [Option.map_none, Option.map_some, reduceCtorEq, Option.some.injEq] at sameContent
    · exact Draw.Alike.pure rfl
    · refine keyIH.bind fun entry entry' sameEntry => ?_
      rcases entry with - | entry <;> rcases entry' with - | entry' <;>
        simp only [Option.map_none, Option.map_some, reduceCtorEq, Option.some.injEq] at sameEntry
      · exact Draw.Alike.pure rfl
      · refine Draw.Alike.pure ?_
        simp [MockValue.skeleton, MockValue.skeletonEntries, sameContent, sameEntry]
  case moreItems =>
    intro around item name more firstIH restIH
    refine firstIH.bind fun first first' sameFirst => ?_
    refine restIH.bind fun items items' sameItems => Draw.Alike.pure ?_
    rw [MockValue.skeletonItems_append, MockValue.skeletonItems_append, sameItems]
    rcases first with - | first <;> rcases first' with - | first' <;>
      simp_all [MockValue.skeletonItems]
  case moreFields =>
    intro around member rest firstIH restIH
    refine firstIH.bind fun first first' sameFirst => ?_
    refine restIH.bind fun fields fields' sameFields => Draw.Alike.pure ?_
    rw [MockValue.skeletonFields_append, MockValue.skeletonFields_append, sameFields]
    rcases first with - | first <;> rcases first' with - | first' <;>
      simp_all [MockValue.skeletonFields]
  case activeStructure | activeElement | noItems | noFields =>
    intros
    exact Draw.Alike.pure rfl
  all_goals
    intros
    exact Draw.Alike.throw

/-- The seed takes no part in the synthesis below the root: the generator is its only use. -/
theorem structureFields_seed (mocks : Mocks) (seed : Nat) :
    structureFields { mocks with seed } = structureFields mocks := by
  with_unfolding_all rfl

theorem memberValue_seed (mocks : Mocks) (seed : Nat) :
    memberValue { mocks with seed } = memberValue mocks := by
  with_unfolding_all rfl

theorem skeleton_ofStructure (mocks : Mocks) (id : ShapeId) (seed : Nat) :
    (ofStructure { mocks with seed } id).map MockValue.skeleton =
      (ofStructure mocks id).map MockValue.skeleton := by
  rw [ofStructure_eq, ofStructure_eq, structureFields_seed]
  cases mocks.model.resolveStructure id with
  | error fault => simp only [Except.bind]
  | ok shape =>
    refine ((alike_synthesis mocks).2.2 _ shape.members).map ?_ _ _
    intro fields fields' same
    simp [MockValue.skeleton, same]

theorem skeleton_synthesize (mocks : Mocks) (id : ShapeId) (seed : Nat) :
    (synthesize { mocks with seed } id).map (Option.map MockValue.skeleton) =
      (synthesize mocks id).map (Option.map MockValue.skeleton) := by
  rw [synthesize_eq, synthesize_eq, memberValue_seed]
  cases mocks.model.classify id with
  | error fault => simp only [Except.bind]
  | ok type =>
    exact ((alike_synthesis mocks).1 {} (root id) id.name).map (fun _ _ same => same) _ _

/-- The graph of shapes and the list size determine the skeleton of an instance, and no seed does:
every node is as they demand, and for any two seeds the skeletons are the same, or the failures
are. -/
theorem skeleton_determined (mocks : Mocks) (id : ShapeId) :
    (∀ value, mocks.ofStructure id = .ok value →
      ∃ shape fields, mocks.model.resolveStructure id = .ok shape ∧
        value = .structure id fields ∧ FitsFields mocks [id] shape.members fields) ∧
    (∀ result, mocks.synthesize id = .ok result → Settled mocks [] id result) ∧
    (∀ left right,
      (ofStructure { mocks with seed := left } id).map MockValue.skeleton =
        (ofStructure { mocks with seed := right } id).map MockValue.skeleton) ∧
    (∀ left right,
      (synthesize { mocks with seed := left } id).map (Option.map MockValue.skeleton) =
        (synthesize { mocks with seed := right } id).map (Option.map MockValue.skeleton)) := by
  refine ⟨?_, ?_, ?_, ?_⟩
  · intro value run
    rcases synthesized_of_ofStructure run with
      ⟨shape, fields, resolved, rfl, results, aligned, rfl, parts⟩
    refine ⟨shape, _, resolved, rfl, ?_⟩
    rw [← aligned]
    exact fitsFields_of_settled fun result member => (parts result member).settled
  · intro result run
    exact (synthesized_of_synthesize run).settled
  · intro left right
    rw [skeleton_ofStructure mocks id left, skeleton_ofStructure mocks id right]
  · intro left right
    rw [skeleton_synthesize mocks id left, skeleton_synthesize mocks id right]

/-- An entry of the journal has an instance both as a structure and as data. -/
theorem skeleton_determined_journal :
    Journal.mocks.ofStructure Journal.entryId = .ok Journal.sample ∧
      FitsFields Journal.mocks [Journal.entryId] Journal.entry.members Journal.fields ∧
      Journal.mocks.synthesize Journal.entryId = .ok (some Journal.sample) ∧
      Fits Journal.mocks [] Journal.entryId Journal.sample := by
  rcases skeleton_determined Journal.mocks Journal.entryId with ⟨ofStructure, synthesize, -⟩
  rcases ofStructure _ Journal.ofStructure_entry with ⟨shape, fields, resolved, ⟨⟩, fits⟩
  have found : Journal.mocks.model.resolveStructure Journal.entryId = .ok Journal.entry := rfl
  cases found.symm.trans resolved
  exact ⟨Journal.ofStructure_entry, fits, Journal.synthesize_entry,
    (synthesize _ Journal.synthesize_entry).2⟩

end Mocks

end ShapeForge
