import ShapeForge.Proofs.Mock.Validity
import ShapeForge.Proofs.Validation.Positions

/-!
# The first fault of an instance

The check of an instance succeeds exactly if nothing it meets has a flaw, and otherwise reports the
flaw at the first place.
-/

namespace ShapeForge.Validation

/-! ## What the check reports -/

theorem members_of_classify
    {model : Model} {target : ShapeId} {shape : Shape} {members : List Member}
    (classified : model.classify target = .ok (.structure shape members)) :
    shape.members = members := by
  obtain ⟨-, body⟩ := Model.lookup?_of_classify classified rfl
  exact Shape.members_of_body (Option.some.inj body).symm

section Nested

variable {model : Model} {descend : Descend}

variable {value : Json} {path : String}

/-- A value that holds no structure has no fault, if the elements of its type are found. -/
theorem isFirst_of_holds_none {type : TypeRef} (resolved : resolveElement model type = .ok ())
    (holdsNone : ∀ within found inner, ¬Holds model type value within found inner) :
    IsFirst (HeldFault model type value path) (.ok ()) := by
  rintro place fault (⟨failed, -⟩ | ⟨within, found, inner, -, holds, -⟩)
  · rw [resolved] at failed
    cases failed
  · exact holdsNone within found inner holds

/-- The check of a list or map goes through its elements in turn, where these are structures. -/
theorem checkNested_of_element {type elementType : TypeRef} {element : Member}
    (isElement : element? type = some element)
    (classified : model.classifyMember element = .ok elementType) :
    checkNested model descend type value path =
      match structure? elementType with
      | some (shape, members) => inTurn ((elements type value).map fun held =>
          descend shape members held.2 (path ++ held.1.text))
      | none => .ok () := by
  cases type <;> cases isElement
  case list =>
    cases elementType with
    | «structure» shape members =>
      cases value with
      | array items =>
        rw [checkNested_list_of_structure classified, checkItems_eq]
        simp [elements, structure?, Step.text, Function.comp_def, String.append_assoc]
      | null | bool | number | string | object =>
        simp only [checkNested, classified]
        rfl
    | _ => exact checkNested_list_of_other classified rfl _ _
  case map =>
    cases elementType with
    | «structure» shape members =>
      cases value with
      | object fields =>
        rw [checkNested_map_of_structure classified, checkEntries_eq]
        simp [elements, structure?, Step.text, Function.comp_def, String.append_assoc]
      | null | bool | number | string | array =>
        simp only [checkNested, classified]
        rfl
    | _ => exact checkNested_map_of_other classified rfl _ _

/-- The check of a value of a type reports the first fault below it, if the check that it descends
to does so for everything that the value holds. -/
theorem isFirst_checkNested {target : ShapeId} {type : TypeRef}
    (classified : model.classify target = .ok type)
    (below : ∀ within found inner, Holds model type value within found inner → ∀ path,
      IsFirst (Flawed model found inner path) (descend found found.members inner path)) :
    IsFirst (HeldFault model type value path) (checkNested model descend type value path) := by
  cases isElement : element? type with
  | none =>
    cases type with
    | «structure» shape members =>
      have reached := below [] shape value .itself path
      rw [members_of_classify classified] at reached
      refine IsFirst.congr ?_ reached
      intro place fault
      constructor
      · intro flawed
        exact Or.inr ⟨[], shape, value, place, .itself, flawed, rfl⟩
      · rintro (⟨failed, -⟩ | ⟨within, found, inner, rest, holds, flawed, rfl⟩)
        · cases failed
        · cases holds
          exact flawed
    | list | map => cases isElement
    | primitive | simple | enumeration =>
      refine isFirst_of_holds_none rfl ?_
      intro within found inner holds
      cases holds
  | some element =>
    cases found : model.classifyMember element with
    | error fault =>
      have failed : checkNested model descend type value path = .error fault := by
        cases type <;> cases isElement <;> simp only [checkNested, found] <;> rfl
      rw [failed]
      refine IsFirst.at_place (Or.inl ⟨?_, rfl⟩)
      simp [resolveElement, isElement, found, Except.map]
    | ok elementType =>
      rw [checkNested_of_element isElement found]
      cases elementType with
      | «structure» shape members =>
        have same := members_of_classify (Model.classifyMember_eq_ok.mp found)
        refine IsFirst.congr ?_ (isFirst_inTurn Prod.fst
          (fun held => Flawed model shape held.2 (path ++ held.1.text))
          (pairwise_elements type value) fun held isHeld => ?_)
        · intro place fault
          rw [heldFault_of_element isElement found]
          simp only [holds_iff_of_element isElement found]
          constructor
          · rintro ⟨⟨step, inner⟩, isHeld, rest, rfl, flawed⟩
            exact ⟨[step], shape, inner, rest, ⟨members, step, rfl, rfl, isHeld⟩, flawed, rfl⟩
          · rintro ⟨_, _, inner, rest, ⟨_, step, ⟨⟩, rfl, isHeld⟩, flawed, rfl⟩
            exact ⟨(step, inner), isHeld, rest, rfl, flawed⟩
        · have holds := (holds_iff_of_element isElement found).mpr
            ⟨members, held.1, rfl, rfl, isHeld⟩
          have reached := below _ shape held.2 holds (path ++ held.1.text)
          rwa [same] at reached
      | primitive | simple | list | enumeration | map =>
        refine isFirst_of_holds_none (resolveElement_of_classifyMember isElement found) ?_
        intro within shape inner holds
        obtain ⟨_, _, same, -⟩ := (holds_iff_of_element isElement found).mp holds
        cases same

end Nested

variable {model : Model} {path type field : String} {shape : Shape} {value : Json}

/-- The check of a member reports the first of its faults. -/
theorem isFirst_checkMember {descend : Descend} {fields : List (String × Json)} {member : Member}
    (distinct : (shape.members.map Member.jsonName).Nodup) (isMember : member ∈ shape.members)
    (below : ∀ value type within found inner, given? fields member.jsonName = some value →
      model.classifyMember member = .ok type → Holds model type value within found inner →
        ∀ path, IsFirst (Flawed model found inner path) (descend found found.members inner path)) :
    IsFirst (MemberFault model shape fields path member)
      (checkMember model descend shape (missing shape.members fields) fields path member) := by
  rw [checkMember]
  split
  case isTrue isMissing =>
    obtain ⟨isRequired, absent⟩ := (contains_missing distinct isMember).mp isMissing
    exact IsFirst.at_place (Or.inl ⟨isRequired, absent, rfl, rfl⟩)
  case isFalse notMissing =>
    rw [contains_missing distinct isMember] at notMissing
    cases given : given? fields member.jsonName with
    | none =>
      rintro place fault (⟨isRequired, absent, -⟩ | ⟨value, isGiven, -⟩)
      · exact notMissing ⟨isRequired, absent⟩
      · rw [given] at isGiven
        cases isGiven
    | some value =>
      cases classified : model.classifyMember member with
      | error fault =>
        exact IsFirst.at_place (Or.inr ⟨value, given, Or.inl ⟨classified, rfl⟩⟩)
      | ok type =>
        refine IsFirst.congr ?_ (isFirst_checkNested (Model.classifyMember_eq_ok.mp classified)
          fun within found inner holds => below value type within found inner given classified
            holds)
        intro place fault
        constructor
        · intro held
          exact Or.inr ⟨value, given, Or.inr ⟨type, classified, held⟩⟩
        · rintro (⟨-, absent, -⟩ | ⟨other, isGiven, ⟨failed, -⟩ | ⟨found, same, held⟩⟩)
          · cases given.symm.trans absent
          · cases classified.symm.trans failed
          · cases given.symm.trans isGiven
            cases classified.symm.trans same
            exact held

/-- A check that goes deeper than the value reports the first of its flaws. -/
theorem isFirst_checkStructure {root : ShapeId}
    (distinct : ∀ target found, model.Reaches root target → model.lookup? target = some found →
      (found.members.map Member.jsonName).Nodup)
    {depth : Nat} {id : ShapeId}
    (reached : model.Reaches root id)
    (found : model.lookup? id = some shape)
    (deep : value.depth < depth)
    (path : String) :
    IsFirst (Flawed model shape value path)
      (checkStructure model depth shape shape.members value path) := by
  induction depth generalizing id shape value path with
  | zero => exact (Nat.not_lt_zero _ deep).elim
  | succ depth ih =>
    have place {value : Json} {fault : Fault}
        (flaw : Flaw model shape path value [] fault) :
        IsFirst (Flawed model shape value path) (.error fault) :=
      IsFirst.at_place ⟨[], shape, value, [], .here, flaw, rfl⟩
    cases value with
    | null => exact place .null
    | bool | number | string | array => exact place (.other (by simp) (by simp))
    | object fields =>
      have numbered (check : Member → Except Fault Unit) :
          shape.members.map check =
            shape.members.zipIdx.map fun member => check member.1 := by
        conv_lhs => rw [← List.zipIdx_map_fst 0 shape.members, List.map_map]
        rfl
      rw [checkStructure_object, numbered]
      refine IsFirst.congr ?_ (isFirst_inTurn
        (fun member : Member × Nat => .member member.2 member.1.jsonName)
        (fun member => MemberFault model shape fields path member.1)
        (pairwise_zipIdx shape.members 0) ?_)
      · intro place fault
        rw [flawed_object]
        constructor
        · rintro ⟨⟨member, index⟩, isMember, rest, rfl, faulty⟩
          exact ⟨index, member, rest, List.mem_zipIdx_iff_getElem?.mp isMember, rfl, faulty⟩
        · rintro ⟨index, member, rest, isMember, rfl, faulty⟩
          exact ⟨(member, index), List.mem_zipIdx_iff_getElem?.mpr isMember, rest, rfl, faulty⟩
      · intro ⟨member, index⟩ isMember
        have isMember : member ∈ shape.members := List.fst_mem_of_mem_zipIdx isMember
        apply isFirst_checkMember (distinct id shape reached found) isMember
        intro value type within inner held given classified holds path
        obtain ⟨target, further, isInner⟩ :=
          holds.reaches (Model.classifyMember_eq_ok.mp classified)
        have refers : model.Refers id member.target :=
          ⟨shape, found, member, shape.mem_parts isMember, rfl⟩
        refine ih ((reached.tail refers).trans further) isInner ?_ path
        have lower := depth_of_given given
        have notHigher := holds.depth_le
        omega

theorem structure?_eq_some {type : TypeRef} {members : List Member} :
    structure? type = some (shape, members) ↔ type = .structure shape members := by
  cases type <;> simp [structure?]

/-- The check of a value of a type depends on the check that it descends to only at what the value
holds. -/
theorem checkNested_congr {descend other : Descend} {type : TypeRef}
    (agree : ∀ within found inner, Holds model type value within found inner →
      ∀ members path, descend found members inner path = other found members inner path)
    (path : String) :
    checkNested model descend type value path = checkNested model other type value path := by
  cases isElement : element? type with
  | none =>
    cases type with
    | «structure» shape members => exact agree [] shape value .itself members path
    | list | map => cases isElement
    | primitive | simple | enumeration => rfl
  | some element =>
    cases classified : model.classifyMember element with
    | error fault =>
      cases type <;> cases isElement <;> simp only [checkNested, classified, bind, Except.bind]
    | ok elementType =>
      rw [checkNested_of_element isElement classified, checkNested_of_element isElement classified]
      split
      case h_1 shape members isStructure =>
        congr 1
        apply List.map_congr_left
        intro held isHeld
        have holds := (holds_iff_of_element isElement classified).mpr
          ⟨members, held.1, structure?_eq_some.mp isStructure, rfl, isHeld⟩
        exact agree [held.1] shape held.2 holds members _
      case h_2 => rfl

/-- Going deeper than the value changes nothing. -/
theorem checkStructure_eq_of_deep {depth other : Nat} (deep : value.depth < depth)
    (alsoDeep : value.depth < other) (shape : Shape) (members : List Member) (path : String) :
    checkStructure model depth shape members value path =
      checkStructure model other shape members value path := by
  induction depth generalizing other shape members value path with
  | zero => exact (Nat.not_lt_zero _ deep).elim
  | succ depth ih =>
    obtain ⟨other, rfl⟩ := Nat.exists_eq_succ_of_ne_zero (Nat.ne_zero_of_lt alsoDeep)
    cases value with
    | null | bool | number | string | array => rfl
    | object fields =>
      rw [checkStructure_object, checkStructure_object]
      congr 1
      apply List.map_congr_left
      intro member isMember
      rw [checkMember, checkMember]
      split
      · rfl
      cases given : given? fields member.jsonName with
      | none => rfl
      | some inner =>
        cases model.classifyMember member with
        | error fault => rfl
        | ok type =>
          refine checkNested_congr ?_ _
          intro within found last holds members path
          have lower := depth_of_given given
          have notHigher := holds.depth_le
          exact ih (by omega) (by omega) found members path

/-! ## Faults of the model -/

theorem classify_ne_requiredField {target : ShapeId} :
    model.classify target ≠ .error (.requiredField type field path) := by
  unfold Model.classify Model.typeOf
  repeat' split
  all_goals simp

theorem classifyMember_ne_requiredField {member : Member} :
    model.classifyMember member ≠ .error (.requiredField type field path) := by
  unfold Model.classifyMember
  cases classified : model.classify member.target with
  | ok found => exact fun same => nomatch same
  | error fault =>
    intro same
    cases fault <;> cases same
    exact classify_ne_requiredField classified

theorem resolveMember_ne_requiredField {member : Member} :
    resolveMember model member ≠ .error (.requiredField type field path) := by
  rw [Ne, resolveMember_eq_error]
  rintro (failed | ⟨found, -, failed⟩)
  · exact classifyMember_ne_requiredField failed
  · rw [resolveElement] at failed
    split at failed
    case h_1 element isElement =>
      cases classified : model.classifyMember element with
      | ok elementType =>
        rw [classified] at failed
        cases failed
      | error fault =>
        rw [classified] at failed
        cases failed
        exact classifyMember_ne_requiredField classified
    case h_2 => cases failed

/-! ## The report -/

/-- A flaw that is reported as a missing member is a null or a required member that is not given. -/
theorem Flaw.of_requiredField {place : String} {within : List Step}
    (flaw : Flaw model shape place value within (.requiredField type field path)) :
    place = path ∧ Naming.declName shape.id = type ∧
      ((within = [] ∧ field = "" ∧ value = .null) ∨
        ∃ fields index member, within = [.member index member.jsonName] ∧ value = .object fields ∧
          shape.members[index]? = some member ∧ member.name = field ∧
          member.traits.isRequired = true ∧ given? fields member.jsonName = none) := by
  generalize same : Fault.requiredField type field path = fault at flaw
  cases flaw with
  | null =>
    injection same with sameType sameField samePath
    exact ⟨samePath.symm, sameType.symm, Or.inl ⟨rfl, sameField, rfl⟩⟩
  | other => cases same
  | missing isMember isRequired absent =>
    injection same with sameType sameField samePath
    exact ⟨samePath.symm, sameType.symm,
      Or.inr ⟨_, _, _, rfl, rfl, isMember, sameField.symm, isRequired, absent⟩⟩
  | unresolved isMember isGiven failed =>
    rw [← same] at failed
    exact (resolveMember_ne_requiredField failed).elim

theorem given?_eq_none {fields : List (String × Json)} {key : String} :
    given? fields key = none ↔
      Json.lookup key fields = none ∨ Json.lookup key fields = some .null := by
  rw [given?, Option.filter_eq_none_iff]
  cases Json.lookup key fields with
  | none => simp
  | some value => cases value <;> simp [Json.isNull]

/-- A required member that is not given in what is met, or a null met in the position of a structure
(with no member's name), at a place: the type and the path of the report. -/
def Missing (model : Model) (shape : Shape) (root : Json) (type field path : String)
    (place : List Step) : Prop :=
  ∃ steps owner value, Met model shape root steps owner value ∧
    Naming.declName owner.id = type ∧ pathText "$" steps = path ∧ follow root steps = some value ∧
    ((∃ fields index member, value = .object fields ∧ owner.members[index]? = some member ∧
        member.name = field ∧ member.traits.isRequired = true ∧
        (Json.lookup member.jsonName fields = none ∨
          Json.lookup member.jsonName fields = some .null) ∧
        place = steps ++ [.member index member.jsonName]) ∨
      (field = "" ∧ value = .null ∧ place = steps))

/-- The flaws that are reported as missing members. -/
theorem missing_iff_flawed {root : Json} {place : List Step} :
    Missing model shape root type field path place ↔
      Flawed model shape root "$" place (.requiredField type field path) := by
  constructor
  · rintro ⟨steps, owner, value, met, rfl, rfl, -, member | ⟨rfl, rfl, rfl⟩⟩
    · obtain ⟨fields, index, member, rfl, isMember, rfl, isRequired, absent, rfl⟩ := member
      exact ⟨steps, owner, _, _, met, .missing isMember isRequired (given?_eq_none.mpr absent), rfl⟩
    · exact ⟨place, owner, _, [], met, .null, (List.append_nil place).symm⟩
  · rintro ⟨steps, owner, value, within, met, flaw, rfl⟩
    obtain ⟨samePath, sameType, ⟨rfl, isEmpty, isNull⟩ | ⟨fields, index, member, rfl, isObject,
      isMember, sameField, isRequired, absent⟩⟩ := flaw.of_requiredField
    · exact ⟨steps, owner, value, met, sameType, samePath, met.follow,
        Or.inr ⟨isEmpty, isNull, List.append_nil steps⟩⟩
    · exact ⟨steps, owner, value, met, sameType, samePath, met.follow,
        Or.inl ⟨fields, index, member, isObject, isMember, sameField, isRequired,
          given?_eq_none.mp absent, rfl⟩⟩

/-- The check of an instance is decided by the instance, however deep the model goes.  It succeeds
exactly if everything in the position of a structure is an object whose required members are given
and whose given members have types.  It reports a missing member exactly if that is missing and
everything met before it passes. -/
theorem first_missing_reported
    {model : Model} {id : ShapeId} {shape : Shape}
    (resolved : model.resolveStructure id = .ok shape)
    (distinct : ∀ target found, model.Reaches id target → model.lookup? target = some found →
      (found.members.map Member.jsonName).Nodup)
    (root : Json) :
    (∀ depth, root.depth < depth →
      checkStructure model depth shape shape.members root "$" = checkInstance model id root) ∧
    (checkInstance model id root = .ok () ↔
      ∀ steps owner value, Met model shape root steps owner value → Passes model owner value) ∧
    ∀ type field path,
      checkInstance model id root = .error (.requiredField type field path) ↔
        ∃ place, Missing model shape root type field path place ∧
          PassesBefore model shape root place := by
  have checked : checkInstance model id root =
      checkStructure model (root.depth + 1) shape shape.members root "$" := by
    rw [checkInstance, resolved]
    rfl
  have first : IsFirst (Flawed model shape root "$") (checkInstance model id root) := by
    rw [checked]
    exact isFirst_checkStructure distinct .refl (Model.resolveStructure_eq_ok resolved).1
      (Nat.lt_succ_self _) "$"
  refine ⟨?_, ?_, ?_⟩
  · intro depth deep
    rw [checked]
    exact checkStructure_eq_of_deep deep (Nat.lt_succ_self _) shape shape.members "$"
  · constructor
    · intro accepted steps owner value met
      rw [accepted] at first
      rw [passes_iff_flawless]
      intro within fault flaw
      exact first _ fault ⟨steps, owner, value, within, met, flaw, rfl⟩
    · intro passes
      cases outcome : checkInstance model id root with
      | ok _ => rfl
      | error fault =>
          rw [outcome] at first
          obtain ⟨-, ⟨steps, owner, value, within, met, flaw, -⟩, -⟩ := first
          exact (passes_iff_flawless.mp (passes steps owner value met) within fault flaw).elim
  · intro type field path
    simp only [missing_iff_flawed, passesBefore_iff "$"]
    exact first.eq_error (comparable_flawed shape root "$")

namespace Thread

def timed (more : List (String × Json)) : Json := .object (("written", .string "now") :: more)

/-- An entry whose next entry has two replies, the second with a null for its time of writing. -/
def root : Json :=
  timed [("next", timed [("replies", .array [timed [], .object [("written", .null)]])])]

end Thread

/-- In the thread the time of writing of the second reply is reported as missing. -/
theorem first_missing_reported_thread :
    Mocks.Journal.mocks.model.resolveStructure Mocks.Journal.entryId = .ok Mocks.Journal.entry ∧
      checkInstance Mocks.Journal.mocks.model Mocks.Journal.entryId Thread.root =
        .error (.requiredField "Entry" "written" "$.next.replies[1]") ∧
      ∃ place, Missing Mocks.Journal.mocks.model Mocks.Journal.entry Thread.root "Entry" "written"
          "$.next.replies[1]" place ∧
        PassesBefore Mocks.Journal.mocks.model Mocks.Journal.entry Thread.root place := by
  have rejected : checkInstance Mocks.Journal.mocks.model Mocks.Journal.entryId Thread.root =
      .error (.requiredField "Entry" "written" "$.next.replies[1]") := rfl
  obtain ⟨-, -, reported⟩ := first_missing_reported rfl
    Mocks.Journal.completable.distinct Thread.root
  exact ⟨rfl, rejected, (reported _ _ _).mp rejected⟩

end ShapeForge.Validation
