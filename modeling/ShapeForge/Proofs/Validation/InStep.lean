import ShapeForge.Proofs.Validation.Value

/-!
# Validators in step with the check

A part of a validator and a part of the check are in step if the validator returns, and whatever it
returns agrees with the outcome of the check.  Parts that are in step one by one are in step in
turn.  From this follow the steps: the call for a structure, the loops over lists and maps, and the
statements for a member.
-/

namespace ShapeForge.Validation

/-! ## Running in step -/

/-- A result of a validator and the outcome of a check agree: one accepts if the other does, and
without maps both report the same member of the same type. -/
def Agree (mapFree : Prop) (result : Option RequiredError) (outcome : Except Fault Unit) : Prop :=
  (outcome = .ok () ↔ result = none) ∧
    (mapFree → ∀ error ∈ result, ∃ path,
      outcome = .error (.requiredField error.type error.field path))

/-- A part of a validator has a result, and all its results agree with the outcome of a check. -/
structure Matches (mapFree : Prop) (results : Option RequiredError → Prop)
    (outcome : Except Fault Unit) : Prop where
  returns : ∃ result, results result
  agree : ∀ result, results result → Agree mapFree result outcome

section InStep

variable {model : Model} {mapFree : Prop} {outcome : Except Fault Unit}
  {first : List (Frame × Statement)}

theorem agree_none : Agree mapFree none (.ok ()) :=
  ⟨⟨fun _ => rfl, fun _ => rfl⟩, fun _ _ isError => by cases isError⟩

theorem agree_some (error : RequiredError) (path : String) :
    Agree mapFree (some error) (.error (.requiredField error.type error.field path)) := by
  constructor
  · constructor <;> intro equal <;> cases equal
  · rintro _ _ ⟨⟩
    exact ⟨path, rfl⟩

theorem Matches.weaken {weaker : Prop} {results : Option RequiredError → Prop}
    (inStep : Matches mapFree results outcome) (implied : weaker → mapFree) :
    Matches weaker results outcome :=
  ⟨inStep.returns, fun result isResult =>
    ⟨(inStep.agree result isResult).1, fun holds =>
      (inStep.agree result isResult).2 (implied holds)⟩⟩

theorem matches_done : Matches mapFree (RunsInTurn model []) (.ok ()) := by
  refine ⟨⟨none, .done⟩, ?_⟩
  rintro result ⟨⟩
  exact agree_none

/-- A run of two parts stops in the first, or goes through it and is a run of the second. -/
theorem runsInTurn_append {second : List (Frame × Statement)} {result : Option RequiredError} :
    RunsInTurn model (first ++ second) result ↔
      (∃ error, result = some error ∧ RunsInTurn model first (some error)) ∨
        (RunsInTurn model first none ∧ RunsInTurn model second result) := by
  induction first with
  | nil =>
    constructor
    · exact fun runs => Or.inr ⟨.done, runs⟩
    · rintro (⟨error, -, ⟨⟩⟩ | ⟨-, runs⟩)
      exact runs
  | cons step rest ih =>
    rcases step with ⟨frame, statement⟩
    rw [List.cons_append]
    constructor
    · rintro (_ | stop | ⟨step, others⟩)
      · exact Or.inl ⟨_, rfl, .stop stop⟩
      · rcases ih.mp others with ⟨error, isError, stopped⟩ | ⟨through, runs⟩
        · exact Or.inl ⟨error, isError, .step step stopped⟩
        · exact Or.inr ⟨.step step through, runs⟩
    · rintro (⟨error, rfl, runs⟩ | ⟨through, runs⟩)
      · rcases runs with _ | stop | ⟨step, others⟩
        · exact .stop stop
        · exact .step step (ih.mpr (Or.inl ⟨error, rfl, others⟩))
      · rcases through with _ | _ | ⟨step, others⟩
        exact .step step (ih.mpr (Or.inr ⟨others, runs⟩))

theorem Matches.append {second : List (Frame × Statement)} {next : Except Fault Unit}
    (head : Matches mapFree (RunsInTurn model first) outcome)
    (tail : Matches mapFree (RunsInTurn model second) next) :
    Matches mapFree (RunsInTurn model (first ++ second)) (outcome.bind fun _ => next) := by
  constructor
  · obtain ⟨result, runs⟩ := head.returns
    cases result with
    | some error => exact ⟨_, runsInTurn_append.mpr (Or.inl ⟨error, rfl, runs⟩)⟩
    | none =>
      obtain ⟨result, others⟩ := tail.returns
      exact ⟨result, runsInTurn_append.mpr (Or.inr ⟨runs, others⟩)⟩
  · intro result runs
    rcases runsInTurn_append.mp runs with ⟨error, rfl, stopped⟩ | ⟨through, others⟩
    · have agrees := head.agree _ stopped
      cases outcome with
      | ok done => cases agrees.1.mp rfl
      | error fault => exact agrees
    · have passed := (head.agree none through).1.mpr rfl
      rw [passed]
      exact tail.agree result others

/-- What follows a part that always fails is never run. -/
theorem Matches.stop {fault : Fault}
    (head : Matches mapFree (RunsInTurn model first) (.error fault))
    (second : List (Frame × Statement)) :
    Matches mapFree (RunsInTurn model (first ++ second)) (.error fault) := by
  have fails : ¬RunsInTurn model first none := fun through => by
    cases (head.agree none through).1.mpr rfl
  constructor
  · obtain ⟨result, runs⟩ := head.returns
    cases result with
    | none => exact (fails runs).elim
    | some error => exact ⟨_, runsInTurn_append.mpr (Or.inl ⟨error, rfl, runs⟩)⟩
  · intro result runs
    rcases runsInTurn_append.mp runs with ⟨error, rfl, stopped⟩ | ⟨through, -⟩
    · exact head.agree _ stopped
    · exact (fails through).elim

/-- Parts that match one by one match in turn. -/
theorem matches_inTurn {α β : Type} {parts : List α} {checks : List β}
    {steps : α → List (Frame × Statement)} {outcome : β → Except Fault Unit}
    (each : List.Forall₂
      (fun check part => Matches mapFree (RunsInTurn model (steps part)) (outcome check))
      checks parts) :
    Matches mapFree (RunsInTurn model (parts.flatMap steps)) (inTurn (checks.map outcome)) := by
  induction each with
  | nil => exact matches_done
  | cons first _ ih =>
    rw [List.flatMap_cons, List.map_cons, inTurn]
    exact first.append ih

/-- A single statement matches if it does on its own. -/
theorem matches_singleton {frame : Frame} {statement : Statement}
    (inStep : Matches mapFree (Runs model frame statement) outcome) :
    Matches mapFree (RunsInTurn model [(frame, statement)]) outcome := by
  have runs_iff (result : Option RequiredError) :
      RunsInTurn model [(frame, statement)] result ↔ Runs model frame statement result := by
    constructor
    · rintro (_ | stop | ⟨step, _ | _⟩)
      · exact stop
      · exact step
    · intro runs
      cases result with
      | none => exact .step runs .done
      | some error => exact .stop runs
  refine ⟨?_, fun result runs => inStep.agree result ((runs_iff result).mp runs)⟩
  obtain ⟨result, runs⟩ := inStep.returns
  exact ⟨result, (runs_iff result).mpr runs⟩

end InStep

/-! ## Fields in step with members -/

section Fields

variable {model : Model} {name : String} {mapFree : Prop}

/-- The validator of a structure in step with the check of an object. -/
def RecordMatches (model : Model) (shape : Shape) (members : List Member) (value : Data)
    (depth : Nat) : Prop :=
  ∀ path, Matches value.MapFree (Returns model shape value)
    (checkStructure model depth shape members value.toJson path)

variable {frame : Frame} {shape : Shape} {depth : Nat} {members : List Member}

theorem matches_call {operand : Operand} {fields : List (String × Data)}
    (isRecord : operand.value frame = .record shape fields)
    (inStep : RecordMatches model shape members (.record shape fields) depth) (path : String) :
    Matches (Data.record shape fields).MapFree (Runs model frame (.call operand))
      (checkStructure model depth shape members (Data.record shape fields).toJson path) := by
  constructor
  · obtain ⟨result, returns⟩ := (inStep path).returns
    exact ⟨result, .call isRecord returns⟩
  · intro result runs
    cases runs with
    | call sameRecord returns =>
      cases isRecord.symm.trans sameRecord
      exact (inStep path).agree result returns

/-- A loop over a list of structures is in step with the check of an array. -/
theorem matches_forItems {items : List Data} (isList : frame.receiver.field name = .list items)
    (records : ∀ item ∈ items, ∃ fields, item = .record shape fields)
    (inStep : ∀ item ∈ items, RecordMatches model shape members item depth) (path : String) :
    Matches (Data.list items).MapFree (Runs model frame (.forItems name (.call (.item name))))
      (checkItems (checkStructure model depth) shape members path 0 (items.map Data.toJson)) := by
  have steps : ((List.range (frame.receiver.field name).items.length).map fun index =>
      (({ frame with index } : Frame), Statement.call (.item name))) =
      items.zipIdx.flatMap fun item => [({ frame with index := item.2 }, .call (.item name))] := by
    rw [isList, Data.items, ← List.map_eq_flatMap, List.range_eq_range',
      ← List.zipIdx_map_snd 0 items, List.map_map]
    rfl
  have loop : Matches (Data.list items).MapFree
      (RunsInTurn model (items.zipIdx.flatMap fun item =>
        [({ frame with index := item.2 }, .call (.item name))]))
      (inTurn (items.zipIdx.map fun item =>
        checkStructure model depth shape members item.1.toJson
          (path ++ "[" ++ toString item.2 ++ "]"))) := by
    refine matches_inTurn (List.forall₂_same.mpr ?_)
    rintro ⟨item, index⟩ isItem
    have found := List.mem_zipIdx_iff_getElem?.mp isItem
    have isMember := List.fst_mem_of_mem_zipIdx isItem
    obtain ⟨fields, rfl⟩ := records item isMember
    refine matches_singleton ((matches_call ?_ (inStep _ isMember) _).weaken ?_)
    · rw [Operand.value, isList, Data.items]
      exact congrArg (·.getD Data.absent) found
    · intro mapFree
      cases mapFree with
      | list parts => exact parts _ isMember
  rw [checkItems_eq, List.zipIdx_map, List.map_map]
  refine ⟨?_, ?_⟩
  · obtain ⟨result, runs⟩ := loop.returns
    exact ⟨result, .items (steps ▸ runs)⟩
  · intro result runs
    cases runs with
    | items each => exact loop.agree result (steps ▸ each)

/-- A loop over a map of structures is in step with the check of an object as far as it matters
whether something is reported. -/
theorem matches_forValues {entries : List (String × Data)}
    (isMap : frame.receiver.field name = .map entries) (distinct : (entries.map Prod.fst).Nodup)
    (records : ∀ entry ∈ entries, ∃ fields, entry.2 = .record shape fields)
    (inStep : ∀ entry ∈ entries, RecordMatches model shape members entry.2 depth) (path : String) :
    Matches (Data.map entries).MapFree (Runs model frame (.forValues name (.call .element)))
      (checkEntries (checkStructure model depth) shape members path
        (Validation.entries (Data.toJsonFields entries))) := by
  let outcome (entry : String × Data) : Except Fault Unit :=
    checkStructure model depth shape members entry.2.toJson
      (path ++ "[" ++ Text.quote entry.1 ++ "]")
  have loop (order : List (String × Data)) (isOrder : order.Perm entries) :
      Matches (Data.map entries).MapFree
        (RunsInTurn model
          (order.map fun entry => ({ frame with element := entry.2 }, .call .element)))
        (inTurn (order.map outcome)) := by
    rw [List.map_eq_flatMap]
    refine matches_inTurn (List.forall₂_same.mpr fun entry isEntry => ?_)
    have isMember := isOrder.mem_iff.mp isEntry
    obtain ⟨fields, isRecord⟩ := records entry isMember
    have element := inStep entry isMember
    rw [isRecord] at element
    have call : Matches (Data.record shape fields).MapFree
        (Runs model { frame with element := entry.2 } (.call .element)) (outcome entry) := by
      simp only [outcome, isRecord]
      exact matches_call rfl element _
    exact matches_singleton (call.weaken (by rintro ⟨⟩))
  have listed : checkEntries (checkStructure model depth) shape members path
      (Validation.entries (Data.toJsonFields entries)) = .ok () ↔
      ∀ entry ∈ entries, outcome entry = .ok () := by
    have distinctKeys : ((Data.toJsonFields entries).map Prod.fst).Nodup := by
      rwa [Data.toJsonFields_eq, List.map_map]
    rw [checkEntries_eq, inTurn_eq_ok, List.forall_mem_map]
    constructor
    · intro passes entry isEntry
      refine passes (entry.1, entry.2.toJson) (mem_entries.mpr ?_)
      rw [Json.lookup_eq_some distinctKeys, Data.toJsonFields_eq]
      exact List.mem_map.mpr ⟨entry, isEntry, rfl⟩
    · rintro passes ⟨key, value⟩ isEntry
      rw [mem_entries, Json.lookup_eq_some distinctKeys, Data.toJsonFields_eq] at isEntry
      obtain ⟨source, isSource, same⟩ := List.mem_map.mp isEntry
      cases same
      exact passes source isSource
  refine ⟨?_, ?_⟩
  · obtain ⟨result, runs⟩ := (loop entries (List.Perm.refl entries)).returns
    have sameEntries : entries.Perm (frame.receiver.field name).entries := by
      rw [isMap, Data.entries]
    exact ⟨result, .values sameEntries runs⟩
  · intro result runs
    cases runs with
    | @values _ _ _ _ order anyOrder each =>
      rw [isMap, Data.entries] at anyOrder
      have agrees := (loop order anyOrder).agree result each
      refine ⟨?_, by rintro ⟨⟩⟩
      rw [listed, ← agrees.1, inTurn_eq_ok, List.forall_mem_map]
      exact ⟨fun passes entry isEntry => passes entry (anyOrder.mem_iff.mp isEntry),
        fun passes entry isEntry => passes entry (anyOrder.mem_iff.mpr isEntry)⟩

/-- The statements that go on into a field are in step with the check of its JSON. -/
def FieldMatches (model : Model) (type : TypeRef) (value : Data) (depth : Nat) : Prop :=
  ∀ frame name required below path, frame.receiver.field name = value →
    descent model type = .ok below →
      Matches value.MapFree
        (RunsInTurn model
          ((below.statements name required).map fun statement => (frame, statement)))
        (checkNested model (checkStructure model depth) type value.toJson path)

/-- Nothing is done about a field that is nil and not required. -/
theorem matches_descent_of_nil {below : Descent}
    (isNil : (frame.receiver.field name).isNil = true) :
    Matches mapFree
      (RunsInTurn model ((below.statements name false).map fun statement => (frame, statement)))
      (.ok ()) := by
  have nothing : frame.receiver.field name = .absent := by
    cases value : frame.receiver.field name with
    | absent => rfl
    | plain | record | list | map =>
      rw [value] at isNil
      cases isNil
  cases below with
  | none => exact matches_done
  | inside =>
    refine matches_singleton ⟨⟨none, .skip isNil⟩, ?_⟩
    intro result runs
    cases runs with
    | skip => exact agree_none
    | enter isSet =>
      rw [isNil] at isSet
      cases isSet
  | items =>
    have noItems : (frame.receiver.field name).items = [] := by rw [nothing]; rfl
    refine matches_singleton ⟨⟨none, .items (by rw [noItems]; exact .done)⟩, ?_⟩
    intro result runs
    cases runs with
    | items each =>
      rw [noItems] at each
      exact matches_done.agree result each
  | values =>
    have noEntries : (frame.receiver.field name).entries = [] := by rw [nothing]; rfl
    have empty : ([] : List (String × Data)).Perm (frame.receiver.field name).entries := by
      rw [noEntries]
    refine matches_singleton ⟨⟨none, .values empty .done⟩, ?_⟩
    intro result runs
    cases runs with
    | values anyOrder each =>
      rw [noEntries, List.perm_nil] at anyOrder
      rw [anyOrder] at each
      exact matches_done.agree result each

theorem matches_requireField_of_nil {field type member : String}
    (isNil : (frame.receiver.field field).isNil = true) (path : String) :
    Matches mapFree (Runs model frame (.requireField field type member))
      (.error (.requiredField type member path)) := by
  refine ⟨⟨_, .fieldNil isNil⟩, ?_⟩
  intro result runs
  cases runs with
  | fieldNil => exact agree_some ⟨type, member⟩ path
  | fieldSet isSet =>
    rw [isNil] at isSet
    cases isSet

theorem matches_requireField_of_set {field type member : String}
    (isSet : (frame.receiver.field field).isNil = false) :
    Matches mapFree (Runs model frame (.requireField field type member)) (.ok ()) := by
  refine ⟨⟨_, .fieldSet isSet⟩, ?_⟩
  intro result runs
  cases runs with
  | fieldNil isNil =>
    rw [isNil] at isSet
    cases isSet
  | fieldSet => exact agree_none

/-- The check that is planned for a member. -/
def planned (shape : Shape) (member : Member) (below : Descent) : MemberCheck :=
  { field := Naming.memberField shape member
    member := member.name
    required := member.traits.isRequired
    descent := below }

theorem statements_planned (shape : Shape) (member : Member) (below : Descent) (type : String) :
    (planned shape member below).statements type =
      if member.traits.isRequired then
        [.requireField (Naming.memberField shape member) type member.name] ++
          below.statements (Naming.memberField shape member) true
      else below.statements (Naming.memberField shape member) false := by
  cases isRequired : member.traits.isRequired <;>
    simp [MemberCheck.statements, planned, isRequired]

/-- The statements for a member are in step with its check. -/
theorem matches_member {fields : List (String × Data)} {member : Member} {type : TypeRef}
    {below : Descent} (distinct : (shape.members.map Member.jsonName).Nodup)
    (isMember : member ∈ shape.members) (classified : model.classify member.target = .ok type)
    (descends : descent model type = .ok below)
    (inStep : ((Data.record shape fields).field
        (Naming.memberField shape member)).isNil = false →
      ((Data.record shape fields).field (Naming.memberField shape member)).toJson.isNull = false ∧
        FieldMatches model type
          ((Data.record shape fields).field (Naming.memberField shape member)) depth)
    (path : String) :
    Matches (Data.record shape fields).MapFree
      (RunsInTurn model
        (((planned shape member below).statements (Naming.declName shape.id)).map fun statement =>
          ({ receiver := .record shape fields }, statement)))
      (checkMember model (checkStructure model depth) shape
        (missing shape.members (objectOf shape (Data.toJsonFields fields)))
        (objectOf shape (Data.toJsonFields fields)) path member) := by
  have missed : (missing shape.members (objectOf shape (Data.toJsonFields fields))).contains
      member.jsonName = true ↔ _ := contains_missing distinct isMember
  rw [statements_planned, checkMember]
  cases isNil : ((Data.record shape fields).field (Naming.memberField shape member)).isNil with
  | true =>
    have given := given?_of_nil distinct isMember isNil
    by_cases isRequired : member.traits.isRequired = true
    · rw [if_pos (missed.mpr ⟨isRequired, given⟩), if_pos isRequired, List.map_append]
      exact (matches_singleton (matches_requireField_of_nil isNil path)).stop _
    · rw [if_neg fun absent => isRequired (missed.mp absent).1, if_neg isRequired, given]
      exact matches_descent_of_nil isNil
  | false =>
    obtain ⟨isSet, matched⟩ := inStep isNil
    have given := given?_of_set distinct isMember isSet
    have present : ¬(missing shape.members
        (objectOf shape (Data.toJsonFields fields))).contains member.jsonName = true := by
      rw [missed, given]
      rintro ⟨-, ⟨⟩⟩
    rw [if_neg present, given, Model.classifyMember_eq_ok.mpr classified]
    have inside (required : Bool) :=
      (matched { receiver := .record shape fields } (Naming.memberField shape member) required
        below (path ++ "." ++ member.jsonName) rfl descends).weaken
        fun mapFree : (Data.record shape fields).MapFree => mapFree.field _
    by_cases isRequired : member.traits.isRequired = true
    · rw [if_pos isRequired, List.map_append]
      exact (matches_singleton (matches_requireField_of_set isNil)).append (inside true)
    · rw [if_neg isRequired]
      exact inside false

end Fields

end ShapeForge.Validation
