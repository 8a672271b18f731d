import ShapeForge.Proofs.Mock.Validity
import ShapeForge.Proofs.Validation.InStep

/-!
# Validators and the check of instances agree

A value of the emitted types and its JSON are looked at by two programs: the validators go through
the fields of the value, and the checker through the members of the JSON.  Both go through the
members of a structure in order, so they run in step, and both accept, or both report the same
member.  Only the entries of a map are taken in different orders, which may change what is reported
but not whether something is.
-/

namespace ShapeForge.Validation

/-! ## Structures in step with objects -/

section Records

variable {model : Model}
variable {shape : Shape} {members : List Member}

theorem forall₂_memberChecks {checks : List MemberCheck}
    (plan : memberChecks model shape members = .ok checks) :
    List.Forall₂
      (fun member check => ∃ type below, model.classify member.target = .ok type ∧
        descent model type = .ok below ∧ check = planned shape member below)
      members checks := by
  induction members generalizing checks with
  | nil =>
    cases plan
    exact .nil
  | cons member rest ih =>
    rw [memberChecks] at plan
    obtain ⟨type, classified, plan⟩ := bind_eq_ok.mp plan
    obtain ⟨below, descends, plan⟩ := bind_eq_ok.mp plan
    obtain ⟨more, others, same⟩ := bind_eq_ok.mp plan
    cases same
    exact .cons ⟨type, below, Model.classifyMember_eq_ok.mp classified, descends, rfl⟩ (ih others)

theorem method_eq_ok {method : Method} (emitted : Validation.method model shape = .ok method) :
    ∃ checks, memberChecks model shape shape.members = .ok checks ∧
      method = { type := Naming.declName shape.id, checks } := by
  unfold Validation.method at emitted
  obtain ⟨checks, plan, same⟩ := bind_eq_ok.mp emitted
  exact ⟨checks, plan, (Except.ok.inj same).symm⟩

theorem statements_mk (type : String) (checks : List MemberCheck) :
    ({ type, checks } : Method).statements =
      .requireReceiver type :: checks.flatMap (MemberCheck.statements type) :=
  rfl

theorem matches_returns
    {mapFree : Prop} {method : Method} {value : Data} {outcome : Except Fault Unit}
    (emitted : Validation.method model shape = .ok method)
    (body : Matches mapFree
      (RunsInTurn model
        (method.statements.map fun statement => ({ receiver := value }, statement))) outcome) :
    Matches mapFree (Returns model shape value) outcome := by
  constructor
  · obtain ⟨result, runs⟩ := body.returns
    exact ⟨result, .method emitted runs⟩
  · rintro result ⟨sameMethod, runs⟩
    cases emitted.symm.trans sameMethod
    exact body.agree result runs

theorem matches_requireReceiver_of_nil {mapFree : Prop} {frame : Frame} (type path : String)
    (isNil : frame.receiver.isNil = true) :
    Matches mapFree (Runs model frame (.requireReceiver type))
      (.error (.requiredField type "" path)) := by
  refine ⟨⟨_, .receiverNil isNil⟩, ?_⟩
  intro result runs
  cases runs with
  | receiverNil => exact agree_some ⟨type, ""⟩ path
  | receiverSet isSet =>
    rw [isNil] at isSet
    cases isSet

theorem matches_requireReceiver_of_set {mapFree : Prop} {frame : Frame} (type : String)
    (isSet : frame.receiver.isNil = false) :
    Matches mapFree (Runs model frame (.requireReceiver type)) (.ok ()) := by
  refine ⟨⟨_, .receiverSet isSet⟩, ?_⟩
  intro result runs
  cases runs with
  | receiverNil isNil =>
    rw [isNil] at isSet
    cases isSet
  | receiverSet => exact agree_none

/-- A nil pointer is reported by the validator and by the check. -/
theorem recordMatches_absent {method : Method}
    (emitted : Validation.method model shape = .ok method) (members : List Member) (depth : Nat) :
    RecordMatches model shape members .absent (depth + 1) := by
  intro path
  obtain ⟨checks, -, rfl⟩ := method_eq_ok emitted
  refine matches_returns emitted ?_
  have receiver : Matches Data.absent.MapFree
      (Runs model { receiver := .absent } (.requireReceiver (Naming.declName shape.id)))
      (.error (.requiredField (Naming.declName shape.id) "" path)) :=
    matches_requireReceiver_of_nil _ path rfl
  rw [statements_mk, List.map_cons, ← List.singleton_append, Data.toJson, checkStructure_null]
  exact (matches_singleton receiver).stop _

/-- The validator of a structure is in step with the check of its object if its fields are. -/
theorem recordMatches_record {fields : List (String × Data)} {method : Method} {depth : Nat}
    (emitted : Validation.method model shape = .ok method)
    (distinct : (shape.members.map Member.jsonName).Nodup) (typed : TypedFields model shape fields)
    (deep : (Data.record shape fields).toJson.depth < depth)
    (inStep : ∀ member ∈ shape.members,
      ((Data.record shape fields).field (Naming.memberField shape member)).isNil = false →
        ∀ type, model.classify member.target = .ok type → ∀ depth,
          ((Data.record shape fields).field (Naming.memberField shape member)).toJson.depth < depth →
            FieldMatches model type
              ((Data.record shape fields).field (Naming.memberField shape member)) depth) :
    RecordMatches model shape shape.members (.record shape fields) depth := by
  intro path
  obtain ⟨depth, rfl⟩ : ∃ below, depth = below + 1 := ⟨depth - 1, by omega⟩
  obtain ⟨checks, plan, rfl⟩ := method_eq_ok emitted
  refine matches_returns emitted ?_
  have members : Matches (Data.record shape fields).MapFree
      (RunsInTurn model (checks.flatMap fun check =>
        (check.statements (Naming.declName shape.id)).map fun statement =>
          ({ receiver := .record shape fields }, statement)))
      (checkStructure model (depth + 1) shape shape.members (Data.record shape fields).toJson
        path) := by
    rw [Data.toJson, checkStructure_object]
    have each := (List.forall₂_and_left (p := (· ∈ shape.members)) shape.members checks).mpr
      ⟨fun _ isMember => isMember, forall₂_memberChecks plan⟩
    refine matches_inTurn (each.imp ?_)
    rintro member _ ⟨isMember, type, below, classified, descends, rfl⟩
    refine matches_member distinct isMember classified descends ?_ path
    intro isSet
    have given := (typed member isMember isSet).isNull_toJson
    refine ⟨given, inStep member isMember isSet type classified depth ?_⟩
    have isField := mem_objectOf.mpr ⟨member, isMember, rfl, rfl, Or.inl given⟩
    have shallower := Json.depth_le_depthFields isField
    rw [Data.toJson, Json.depth] at deep
    omega
  have receiver : Matches (Data.record shape fields).MapFree
      (Runs model { receiver := .record shape fields }
        (.requireReceiver (Naming.declName shape.id))) (.ok ()) :=
    matches_requireReceiver_of_set _ rfl
  have whole := (matches_singleton receiver).append members
  rw [statements_mk, List.map_cons, List.map_flatMap, ← List.singleton_append]
  exact whole

/-- Every structure of a model has its validator. -/
def Emitted (model : Model) : Prop :=
  ∀ shape ∈ model.ofKind .struct, ∃ method, Validation.method model shape = .ok method

theorem methods_eq_ok {shapes : List Shape} {declared : List Method}
    (emitted : methods model shapes = .ok declared) :
    ∀ shape ∈ shapes, ∃ method, Validation.method model shape = .ok method := by
  induction shapes generalizing declared with
  | nil =>
    intro shape isShape
    cases isShape
  | cons first rest ih =>
    rw [methods] at emitted
    obtain ⟨method, one, emitted⟩ := bind_eq_ok.mp emitted
    obtain ⟨more, others, -⟩ := bind_eq_ok.mp emitted
    intro shape isShape
    rcases List.mem_cons.mp isShape with rfl | later
    · exact ⟨method, one⟩
    · exact ih others shape later

theorem emitted_of_source {text : String}
    (written : source model (model.ofKind .struct) = .ok text) :
    Emitted model := by
  unfold source at written
  obtain ⟨declared, emitted, -⟩ := bind_eq_ok.mp written
  exact methods_eq_ok emitted

theorem Emitted.method {id : ShapeId} (emitted : Emitted model)
    (found : model.lookup? id = some shape) (body : shape.body = .structure members) :
    ∃ method, Validation.method model shape = .ok method := by
  refine emitted shape (List.mem_filter.mpr ⟨List.mem_of_find?_eq_some found, ?_⟩)
  rw [Shape.kind, body]
  rfl

theorem descent_list_eq_ok {item : Member} {below : Descent}
    (descends : descent model (.list shape item) = .ok below) :
    ∃ element, model.classify item.target = .ok element ∧
      below = if element.isStructure then .items else .none := by
  rw [descent] at descends
  obtain ⟨element, classified, same⟩ := bind_eq_ok.mp descends
  exact ⟨element, Model.classifyMember_eq_ok.mp classified, (Except.ok.inj same).symm⟩

theorem descent_map_eq_ok {key content : Member} {below : Descent}
    (descends : descent model (.map shape key content) = .ok below) :
    ∃ element, model.classify content.target = .ok element ∧
      below = if element.isStructure then .values else .none := by
  rw [descent] at descends
  obtain ⟨element, classified, same⟩ := bind_eq_ok.mp descends
  exact ⟨element, Model.classifyMember_eq_ok.mp classified, (Except.ok.inj same).symm⟩

theorem structure?_eq_none {type : TypeRef} (other : type.isStructure = false) :
    structure? type = none := by
  cases type with
  | «structure» => cases other
  | primitive | simple | list | enumeration | map => rfl

/-- Neither validators nor the check go into a type that holds no structures. -/
theorem fieldMatches_plain {type : TypeRef} {content : Json} {depth : Nat}
    (shallow : holdsStructures model type = false) :
    FieldMatches model type (.plain content) depth := by
  intro frame name required below path isField descends
  have inert : below = .none ∧
      checkNested model (checkStructure model depth) type content path = .ok () := by
    cases type with
    | primitive | simple | enumeration =>
      cases descends
      exact ⟨rfl, rfl⟩
    | «structure» => cases shallow
    | list shape item =>
      obtain ⟨element, classified, rfl⟩ := descent_list_eq_ok descends
      have other : element.isStructure = false := by
        simpa [holdsStructures, classified, Except.toOption] using shallow
      rw [other]
      exact ⟨rfl, checkNested_list_of_other (Model.classifyMember_eq_ok.mpr classified)
        (structure?_eq_none other) content path⟩
    | map shape key value =>
      obtain ⟨element, classified, rfl⟩ := descent_map_eq_ok descends
      have other : element.isStructure = false := by
        simpa [holdsStructures, classified, Except.toOption] using shallow
      rw [other]
      exact ⟨rfl, checkNested_map_of_other (Model.classifyMember_eq_ok.mpr classified)
        (structure?_eq_none other) content path⟩
  rw [inert.1, Data.toJson, inert.2]
  exact matches_done

/-- The field of a structure calls its validator. -/
theorem fieldMatches_record {fields : List (String × Data)} {depth : Nat}
    (inStep : RecordMatches model shape members (.record shape fields) depth) :
    FieldMatches model (.structure shape members) (.record shape fields) depth := by
  intro frame name required below path isField descends
  cases descends
  have operand : (Operand.field name).value frame = .record shape fields := isField
  have call := matches_call operand inStep path
  cases required with
  | true => exact matches_singleton call
  | false =>
    have isSet : (frame.receiver.field name).isNil = false := by rw [isField]; rfl
    refine matches_singleton ⟨?_, ?_⟩
    · obtain ⟨result, runs⟩ := call.returns
      exact ⟨result, .enter isSet runs⟩
    · intro result runs
      cases runs with
      | skip isNil =>
        rw [isNil] at isSet
        cases isSet
      | enter _ inside => exact call.agree result inside

/-- Typed values are in step: their fields with the check of their JSON, and structures with the
check of their objects. -/
theorem Typed.inStep {root target : ShapeId} {value : Data} (typed : Typed model target value)
    (emitted : Emitted model)
    (distinct : ∀ id shape, model.Reaches root id → model.lookup? id = some shape →
      (shape.members.map Member.jsonName).Nodup)
    (reached : model.Reaches root target) :
    ∀ type, model.classify target = .ok type → ∀ depth, value.toJson.depth < depth →
      FieldMatches model type value depth ∧
        ∀ shape members, type = .structure shape members →
          RecordMatches model shape members value depth := by
  induction typed with
  | plain classified shallow isSet =>
    intro type sameTarget depth deep
    cases classified.symm.trans sameTarget
    refine ⟨fieldMatches_plain shallow, ?_⟩
    rintro shape members rfl
    cases shallow
  | @record target shape members fields classified parts ih =>
    intro type sameTarget depth deep
    cases classified.symm.trans sameTarget
    obtain ⟨found, body⟩ := Model.lookup?_of_classify classified rfl
    have isBody : shape.body = .structure members := (Option.some.inj body).symm
    cases Shape.members_of_body isBody
    obtain ⟨method, isMethod⟩ := emitted.method found isBody
    have inStep : RecordMatches model shape shape.members (.record shape fields) depth := by
      refine recordMatches_record isMethod (distinct target shape reached found) parts deep ?_
      intro member isMember isSet type memberType depth deep
      have edge := Model.refers_of_classify classified rfl isMember
      exact (ih member isMember isSet (reached.tail edge) type memberType depth deep).1
    refine ⟨fieldMatches_record inStep, ?_⟩
    rintro _ _ ⟨⟩
    exact inStep
  | @list target shape item found members items classified element parts ih =>
    intro type sameTarget depth deep
    cases classified.symm.trans sameTarget
    have edge := Model.refers_of_classify classified rfl List.mem_cons_self
    refine ⟨?_, by rintro _ _ ⟨⟩⟩
    intro frame name required below path isField descends
    obtain ⟨sameElement, isElement, rfl⟩ := descent_list_eq_ok descends
    cases element.symm.trans isElement
    rw [Data.toJson, Data.toJsonItems_eq,
      checkNested_list_of_structure (Model.classifyMember_eq_ok.mpr element)]
    refine matches_singleton (matches_forItems isField ?_ ?_ path)
    · exact fun item isItem => (parts item isItem).eq_record element
    · intro value isItem
      refine (ih value isItem (reached.tail edge) _ element depth ?_).2 found members rfl
      have isJson : value.toJson ∈ items.map Data.toJson := List.mem_map.mpr ⟨value, isItem, rfl⟩
      have shallower := Json.depth_le_depthItems isJson
      rw [Data.toJson, Data.toJsonItems_eq, Json.depth] at deep
      omega
  | @map target shape key content found members entries classified element keys parts ih =>
    intro type sameTarget depth deep
    cases classified.symm.trans sameTarget
    have edge := Model.refers_of_classify classified rfl
      (List.mem_cons_of_mem key List.mem_cons_self)
    refine ⟨?_, by rintro _ _ ⟨⟩⟩
    intro frame name required below path isField descends
    obtain ⟨sameElement, isElement, rfl⟩ := descent_map_eq_ok descends
    cases element.symm.trans isElement
    rw [Data.toJson, checkNested_map_of_structure (Model.classifyMember_eq_ok.mpr element)]
    refine matches_singleton (matches_forValues isField keys ?_ ?_ path)
    · exact fun entry isEntry => (parts entry isEntry).eq_record element
    · intro entry isEntry
      refine (ih entry isEntry (reached.tail edge) _ element depth ?_).2 found members rfl
      have isJson : (entry.1, entry.2.toJson) ∈ Data.toJsonFields entries := by
        rw [Data.toJsonFields_eq]
        exact List.mem_map.mpr ⟨entry, isEntry, rfl⟩
      have shallower := Json.depth_le_depthFields isJson
      rw [Data.toJson, Json.depth] at deep
      omega

/-- A pointer to a structure is in step with the check of its JSON. -/
theorem TypedPointer.inStep {id : ShapeId} {value : Data} (typed : TypedPointer model shape value)
    (emitted : Emitted model) (resolved : model.resolveStructure id = .ok shape)
    (distinct : ∀ target found, model.Reaches id target → model.lookup? target = some found →
      (found.members.map Member.jsonName).Nodup) :
    RecordMatches model shape shape.members value (value.toJson.depth + 1) := by
  obtain ⟨found, body⟩ := Model.resolveStructure_eq_ok resolved
  obtain ⟨method, isMethod⟩ := emitted.method found body
  rcases typed with rfl | ⟨fields, rfl, parts⟩
  · exact recordMatches_absent isMethod shape.members _
  · refine recordMatches_record isMethod (distinct id shape Relation.ReflTransGen.refl found) parts
      (Nat.lt_succ_self _) ?_
    intro member isMember isSet type memberType depth deep
    have edge : model.Refers id member.target :=
      ⟨shape, found, member, by rw [body]; exact isMember, rfl⟩
    exact ((parts member isMember isSet).inStep emitted distinct (.single edge) type memberType
      depth deep).1

end Records

/-! ## Entries of a journal -/

namespace Journal

open Mocks.Journal

/-- An entry of the journal, with the time of writing and the replies. -/
def entryValue (time answers : Data) : Data :=
  .record entry [("Written", time), ("Replies", answers)]

theorem typedFields_entry {time answers : Data}
    (isTime : time.isNil = false → Typed mocks.model timestamp time)
    (areReplies : answers.isNil = false → Typed mocks.model entriesId answers) :
    TypedFields mocks.model entry [("Written", time), ("Replies", answers)] := by
  have members : entry.members = [written, next, replies, edited] := rfl
  intro member isMember isSet
  simp only [members, List.mem_cons, List.not_mem_nil, or_false] at isMember
  rcases isMember with rfl | rfl | rfl | rfl
  · exact isTime isSet
  · cases isSet
  · exact areReplies isSet
  · cases isSet

theorem typed_entry {time answers : Data}
    (isTime : time.isNil = false → Typed mocks.model timestamp time)
    (areReplies : answers.isNil = false → Typed mocks.model entriesId answers) :
    Typed mocks.model entryId (entryValue time answers) := by
  have classified : mocks.model.classify entryId = .ok (.structure entry entry.members) := rfl
  exact .record classified (typedFields_entry isTime areReplies)

def someTime : Data := .plain (.string "2024-01-01T00:00:00Z")

theorem typed_someTime : Typed mocks.model timestamp someTime := by
  have classified : mocks.model.classify timestamp = .ok (.primitive timestamp .timestamp) := rfl
  exact .plain classified rfl rfl

/-- Two replies to an entry, of which the second lacks the time of writing. -/
def answers : List Data := [entryValue someTime .absent, entryValue .absent .absent]

theorem typed_answers : Typed mocks.model entriesId (.list answers) := by
  have classified : mocks.model.classify entriesId = .ok (.list Mocks.Journal.entries reply) := rfl
  have element : mocks.model.classify reply.target = .ok (.structure entry entry.members) := rfl
  refine .list classified element ?_
  intro answer isAnswer
  simp only [answers, List.mem_cons, List.not_mem_nil, or_false] at isAnswer
  rcases isAnswer with rfl | rfl
  · exact typed_entry (fun _ => typed_someTime) (fun isSet => by cases isSet)
  · exact typed_entry (fun isSet => by cases isSet) (fun isSet => by cases isSet)

theorem mapFree_entryValue {time answers : Data}
    (timeFree : time.MapFree) (answersFree : answers.MapFree) :
    (entryValue time answers).MapFree := by
  refine .record fun field isField => ?_
  simp only [List.mem_cons, List.not_mem_nil, or_false] at isField
  rcases isField with rfl | rfl
  · exact timeFree
  · exact answersFree

theorem mapFree_answers : (Data.list answers).MapFree := by
  refine .list fun answer isAnswer => ?_
  simp only [answers, List.mem_cons, List.not_mem_nil, or_false] at isAnswer
  rcases isAnswer with rfl | rfl
  · exact mapFree_entryValue .plain .absent
  · exact mapFree_entryValue .absent .absent

/-- An entry with a reply that lacks the time of writing. -/
def draft : Data := entryValue someTime (.list answers)

theorem typedPointer_draft : TypedPointer mocks.model entry draft :=
  Or.inr ⟨_, rfl, typedFields_entry (fun _ => typed_someTime) fun _ => typed_answers⟩

theorem mapFree_draft : draft.MapFree := by
  have timeFree : someTime.MapFree := .plain
  exact mapFree_entryValue timeFree mapFree_answers

end Journal

/-- The validator of a structure and the check of an instance agree.  On every value of the emitted
type the validator returns; whatever it returns, and in whatever order loops over maps go, it
returns nil exactly if the JSON of the value passes the check, and where the value holds no map of
structures, an error names the type and the member that the check reports. -/
theorem validator_agrees_with_check
    (model : Model) (text : String) (id : ShapeId) (shape : Shape) (value : Data)
    (written : source model (model.ofKind .struct) = .ok text)
    (resolved : model.resolveStructure id = .ok shape)
    (distinct : ∀ target found, model.Reaches id target → model.lookup? target = some found →
      (found.members.map Member.jsonName).Nodup)
    (typed : TypedPointer model shape value) :
    (∃ result, Returns model shape value result) ∧
      ∀ result, Returns model shape value result →
        (checkInstance model id value.toJson = .ok () ↔ result = none) ∧
          (value.MapFree → ∀ error ∈ result, ∃ path,
            checkInstance model id value.toJson =
              .error (.requiredField error.type error.field path)) := by
  have inStep := typed.inStep (emitted_of_source written) resolved distinct "$"
  have check : checkInstance model id value.toJson =
      checkStructure model (value.toJson.depth + 1) shape shape.members value.toJson "$" := by
    rw [checkInstance, resolved]
    rfl
  rw [check]
  exact ⟨inStep.returns, inStep.agree⟩

/-- The draft is rejected by its validator and by the check, and both name the time of writing. -/
theorem validator_agrees_with_check_journal :
    TypedPointer Mocks.Journal.mocks.model Mocks.Journal.entry Journal.draft ∧
      Journal.draft.MapFree ∧
      checkInstance Mocks.Journal.mocks.model Mocks.Journal.entryId Journal.draft.toJson =
        .error (.requiredField "Entry" "written" "$.replies[1]") ∧
      Returns Mocks.Journal.mocks.model Mocks.Journal.entry Journal.draft
        (some ⟨"Entry", "written"⟩) := by
  have rejected : checkInstance Mocks.Journal.mocks.model Mocks.Journal.entryId
      Journal.draft.toJson = .error (.requiredField "Entry" "written" "$.replies[1]") := rfl
  obtain ⟨⟨result, returns⟩, agrees⟩ := validator_agrees_with_check Mocks.Journal.mocks.model _
    Mocks.Journal.entryId Mocks.Journal.entry Journal.draft rfl rfl
    Mocks.Journal.completable.distinct Journal.typedPointer_draft
  refine ⟨Journal.typedPointer_draft, Journal.mapFree_draft, rejected, ?_⟩
  obtain ⟨accepted, named⟩ := agrees result returns
  rw [rejected] at accepted named
  cases result with
  | none => cases accepted.mpr rfl
  | some error =>
      obtain ⟨path, same⟩ := named Journal.mapFree_draft error rfl
      rcases error with ⟨type, field⟩
      cases same
      exact returns

end ShapeForge.Validation
