import ShapeForge.Proofs.Emit.Declared
import ShapeForge.Proofs.Model.Reachability

/-!
# Parameters from the URL

The parameters of an operation are members of its input, and what cannot be bound is reported.  So
a binding is reported on exactly if it is incomplete: if the labels of the path are not the members
for labels, or a member for the URL has a type that no text is parsed to.
-/

namespace ShapeForge.Emit

open Recording

/-! ## Steps that report -/

section Steps

variable {α β : Type}

/-- Where the step succeeds it has only added issues, which have a property with its value. -/
def Reports (step : Build α) (property : α → List Issue → Prop) : Prop :=
  ∀ (record after : Recorded) (value : α), step.run record = (.ok value, after) →
    ∃ issues, after.issues = record.issues ++ issues ∧ property value issues

theorem reports_pure {property : α → List Issue → Prop} {value : α} (holds : property value []) :
    Reports (pure value) property := by
  rintro record _ _ ⟨⟩
  exact ⟨[], by simp, holds⟩

theorem reports_check (outcome : Except Fault α) :
    Reports (Build.check outcome) fun value issues => outcome = .ok value ∧ issues = [] := by
  rintro record _ value ⟨⟩
  exact ⟨[], by simp, rfl, rfl⟩

theorem reports_emit (emission : Emission α) :
    Reports (Build.emit emission) fun _ issues => issues = [] := by
  intro record after value run
  cases congrArg Prod.snd run
  exact ⟨[], by simp, rfl⟩

theorem reports_shapeIssue
    (emitter : Emitter) (shape : Shape) (message : String) (severity : Severity) :
    Reports (emitter.shapeIssue shape message severity) fun _ issues => issues ≠ [] := by
  rintro record _ _ ⟨⟩
  exact ⟨_, rfl, by simp⟩

theorem Reports.bind {step : Build α} {next : α → Build β}
    {first : α → List Issue → Prop} {property : β → List Issue → Prop}
    (reports : Reports step first)
    (second : ∀ value issues, first value issues →
      Reports (next value) fun result more => property result (issues ++ more)) :
    Reports (step >>= next) property := by
  intro record after result run
  rw [run_bind] at run
  cases ran : step.run record with
  | mk outcome between =>
    rw [ran] at run
    cases outcome with
    | error fault => cases run
    | ok value =>
      rcases reports record between value ran with ⟨issues, added, holds⟩
      rcases second value issues holds between after result run with ⟨more, addedToo, holdsToo⟩
      exact ⟨issues ++ more, by rw [addedToo, added, List.append_assoc], holdsToo⟩

theorem reports_each {step : α → Build β} {property : α → β → List Issue → Prop}
    (ofItem : ∀ item, Reports (step item) (property item)) (items : List α) :
    Reports (Build.each step items) fun values issues =>
      ∃ outcomes : List (β × List Issue),
        List.Forall₂ (fun item outcome => property item outcome.1 outcome.2) items outcomes ∧
          values = outcomes.map Prod.fst ∧ issues = outcomes.flatMap Prod.snd := by
  induction items with
  | nil => exact reports_pure ⟨[], .nil, rfl, rfl⟩
  | cons item rest ih =>
    refine (ofItem item).bind fun first issues isFirst => ?_
    refine ih.bind ?_
    rintro _ _ ⟨outcomes, areOthers, rfl, rfl⟩
    refine reports_pure ⟨(first, issues) :: outcomes, .cons isFirst areOthers, rfl, ?_⟩
    rw [List.append_nil, List.flatMap_cons]

end Steps

/-! ## Members for the URL -/

/-- Whether a member is to be bound to a label or to the query. -/
def fromUrl (member : Member) : Bool :=
  member.traits.isLabel || member.traits.query?.isSome

/-- Values of the member's type can be parsed from a URL. -/
def Bindable (model : Model) (member : Member) : Prop :=
  ∃ type, model.classifyMember member = .ok type ∧ isBindable type = true

/-- The parameter of a member: from a label of the path if the member is for one, and otherwise
from the query. -/
structure Binds
    (model : Model) (input : Shape) (labels : List String) (member : Member)
    (param : HttpParam) : Prop where
  name : param.name = Naming.handlerParam member.name
  field : param.field = Naming.memberField input member
  source : (member.traits.isLabel = true ∧ member.name ∈ labels ∧
      param.source = .label member.name) ∨
    (member.traits.isLabel = false ∧
      ∃ query, member.traits.query? = some query ∧ param.source = .query query)
  bindable : Bindable model member

/-- A member that can be bound as it asks for. -/
def Fits (model : Model) (labels : List String) (member : Member) : Prop :=
  fromUrl member = true →
    (member.traits.isLabel = true → member.name ∈ labels) ∧ Bindable model member

/-- What becomes of a member: a parameter of its own, if nothing is reported on a member for the
URL. -/
structure Taken
    (model : Model) (input : Shape) (labels : List String) (member : Member)
    (param : Option HttpParam) (issues : List Issue) : Prop where
  silent : issues = [] ↔ Fits model labels member
  binds : ∀ bound ∈ param, Binds model input labels member bound
  given : issues = [] → param.isSome = fromUrl member

variable {emitter : Emitter}

section Member

variable {model : Model} {input : Shape} {labels : List String} {member : Member}

theorem taken_of_free (free : fromUrl member = false) :
    Taken model input labels member none [] where
  silent := iff_of_true rfl fun tagged => by rw [free] at tagged; cases tagged
  binds := by rintro _ ⟨⟩
  given := fun _ => free.symm

theorem taken_of_misfit {issues : List Issue} (misfit : ¬Fits model labels member)
    (added : issues ≠ []) :
    Taken model input labels member none issues where
  silent := iff_of_false added misfit
  binds := by rintro _ ⟨⟩
  given := fun none => absurd none added

theorem Binds.taken {param : HttpParam} (binds : Binds model input labels member param) :
    Taken model input labels member (some param) [] := by
  have tagged : fromUrl member = true := by
    rcases binds.source with ⟨isLabel, -⟩ | ⟨-, query, isQuery, -⟩
    · rw [fromUrl, isLabel, Bool.true_or]
    · rw [fromUrl, isQuery, Option.isSome_some, Bool.or_true]
  refine ⟨iff_of_true rfl fun _ => ⟨fun isLabel => ?_, binds.bindable⟩, ?_, fun _ => tagged.symm⟩
  · rcases binds.source with ⟨-, listed, -⟩ | ⟨noLabel, -⟩
    · exact listed
    · cases isLabel.symm.trans noLabel
  · rintro _ ⟨⟩
    exact binds

end Member

theorem reports_memberParam (input : Shape) (labels : List String) (member : Member) :
    Reports (memberParam emitter input labels member)
      (Taken emitter.model input labels member) := by
  have free : (!member.traits.isLabel && member.traits.query?.isNone) = !fromUrl member := by
    cases query : member.traits.query? <;> simp [fromUrl, query]
  unfold memberParam
  cases tagged : fromUrl member with
  | false =>
    simp only [free, tagged, Bool.not_false, if_true]
    exact reports_pure (taken_of_free tagged)
  | true =>
    simp only [free, tagged, Bool.not_true, Bool.false_eq_true, if_false]
    by_cases unlisted : member.traits.isLabel && !labels.contains member.name
    · simp only [unlisted, if_true]
      refine (reports_shapeIssue emitter input _ _).bind fun _ issues added => ?_
      refine reports_pure (taken_of_misfit (fun fits => ?_) (by simpa using added))
      simp only [Bool.and_eq_true, Bool.not_eq_true', List.contains_eq_mem,
        decide_eq_false_iff_not] at unlisted
      exact unlisted.2 ((fits tagged).1 unlisted.1)
    · simp only [unlisted, Bool.false_eq_true, if_false]
      have listed : member.traits.isLabel = true → member.name ∈ labels := by
        simpa using unlisted
      refine (reports_check _).bind ?_
      rintro type _ ⟨classified, rfl⟩
      cases bindable : isBindable type with
      | true =>
        simp only [Bool.not_true, Bool.false_eq_true, if_false]
        refine (reports_emit _).bind ?_
        rintro typeText _ rfl
        apply reports_pure
        apply Binds.taken
        refine ⟨by dsimp only, by dsimp only, ?_, type, classified, bindable⟩
        cases isLabel : member.traits.isLabel with
        | true => exact Or.inl ⟨rfl, listed isLabel, by simp⟩
        | false =>
          rw [fromUrl, isLabel, Bool.false_or, Option.isSome_iff_exists] at tagged
          rcases tagged with ⟨query, isQuery⟩
          exact Or.inr ⟨rfl, query, isQuery, by simp [isQuery]⟩
      | false =>
        simp only [Bool.not_false, if_true]
        refine (reports_shapeIssue emitter input _ _).bind fun _ issues added => ?_
        refine reports_pure (taken_of_misfit (fun fits => ?_) (by simpa using added))
        rcases (fits tagged).2 with ⟨other, classifiedToo, bindableToo⟩
        cases classified.symm.trans classifiedToo
        cases bindable.symm.trans bindableToo

theorem reports_warnLabels (shape : Shape) (problem : String) (labels : List String) :
    Reports (warnLabels emitter shape problem labels) fun _ issues =>
      (issues = [] ↔ labels = []) := by
  refine (reports_each (fun _ => reports_shapeIssue emitter shape _ _) labels).bind ?_
  rintro _ _ ⟨outcomes, areIssues, rfl, rfl⟩
  refine reports_pure ?_
  cases areIssues with
  | nil => simp
  | cons first others => simp [first]

/-! ## All members -/

section Members

variable {model : Model} {input : Shape} {labels : List String} {members : List Member}
  {outcomes : List (Option HttpParam × List Issue)}

theorem silent_iff
    (taken : List.Forall₂
      (fun member outcome => Taken model input labels member outcome.1 outcome.2)
      members outcomes) :
    outcomes.flatMap Prod.snd = [] ↔ ∀ member ∈ members, Fits model labels member := by
  induction taken with
  | nil => simp
  | cons first _ ih =>
    rw [List.flatMap_cons, List.append_eq_nil_iff, first.silent, ih, List.forall_mem_cons]

/-- The parameters belong to some of the members in order, and where nothing is reported to all
that are for the URL. -/
theorem exists_bound
    (taken : List.Forall₂
      (fun member outcome => Taken model input labels member outcome.1 outcome.2)
      members outcomes) :
    ∃ bound, bound.Sublist members ∧
      List.Forall₂ (Binds model input labels) bound (outcomes.filterMap Prod.fst) ∧
      (outcomes.flatMap Prod.snd = [] → bound = members.filter fromUrl) := by
  induction taken with
  | nil => exact ⟨[], .slnil, .nil, fun _ => rfl⟩
  | @cons member outcome members outcomes first _ ih =>
    rcases ih with ⟨bound, isPart, binds, all⟩
    rcases outcome with ⟨param, issues⟩
    rw [List.flatMap_cons, List.append_eq_nil_iff]
    cases param with
    | none =>
      refine ⟨bound, isPart.cons member, binds, fun ⟨silent, others⟩ => ?_⟩
      have free : fromUrl member = false := (first.given silent).symm
      rw [List.filter_cons_of_neg (by simp [free]), all others]
    | some param =>
      refine ⟨member :: bound, isPart.cons_cons member, .cons (first.binds _ rfl) binds,
        fun ⟨silent, others⟩ => ?_⟩
      have tagged : fromUrl member = true := (first.given silent).symm
      rw [List.filter_cons_of_pos tagged, all others]

/-- The labels of a path are the members for labels, and all members for the URL can be parsed from
it. -/
def Complete (model : Model) (labels : List String) (members : List Member) : Prop :=
  (∀ label, label ∈ labels ↔
    ∃ member ∈ members, member.traits.isLabel = true ∧ member.name = label) ∧
    ∀ member ∈ members, fromUrl member = true → Bindable model member

theorem mem_boundLabels {bound : List Member} {params : List HttpParam}
    (binds : List.Forall₂ (Binds model input labels) bound params) {label : String} :
    label ∈ params.filterMap boundLabel? ↔
      ∃ member ∈ bound, member.traits.isLabel = true ∧ member.name = label := by
  induction binds with
  | nil => simp
  | @cons member param _ _ first _ ih =>
    rcases first.source with ⟨isLabel, -, source⟩ | ⟨noLabel, query, -, source⟩
    · have isBound : boundLabel? param = some member.name := by rw [boundLabel?, source]
      rw [List.filterMap_cons_some isBound, List.mem_cons, ih, List.exists_mem_cons_iff]
      simp only [isLabel, true_and]
      rw [eq_comm]
    · have unbound : boundLabel? param = none := by rw [boundLabel?, source]
      simp [unbound, ih, noLabel]

/-- Nothing is reported on members and labels exactly if they belong together. -/
theorem complete_iff
    (taken : List.Forall₂
      (fun member outcome => Taken model input labels member outcome.1 outcome.2)
      members outcomes) :
    (outcomes.flatMap Prod.snd = [] ∧
        labels.filter (!((outcomes.filterMap Prod.fst).filterMap boundLabel?).contains ·) = []) ↔
      Complete model labels members := by
  rcases exists_bound taken with ⟨bound, isPart, binds, all⟩
  have unbound : labels.filter
        (!((outcomes.filterMap Prod.fst).filterMap boundLabel?).contains ·) = [] ↔
      ∀ label ∈ labels, ∃ member ∈ bound, member.traits.isLabel = true ∧ member.name = label := by
    simp only [List.filter_eq_nil_iff, Bool.not_eq_true', Bool.not_eq_false, List.contains_iff_mem,
      mem_boundLabels binds]
  have ofLabel {member : Member} (isLabel : member.traits.isLabel = true) :
      fromUrl member = true := by
    rw [fromUrl, isLabel, Bool.true_or]
  rw [unbound, silent_iff taken]
  constructor
  · rintro ⟨fits, areBound⟩
    refine ⟨fun label => ⟨fun listed => ?_, ?_⟩, fun member isMember tagged =>
      (fits member isMember tagged).2⟩
    · rcases areBound label listed with ⟨member, isBound, isLabel⟩
      exact ⟨member, isPart.subset isBound, isLabel⟩
    · rintro ⟨member, isMember, isLabel, rfl⟩
      exact (fits member isMember (ofLabel isLabel)).1 isLabel
  · rintro ⟨same, bindable⟩
    have fits : ∀ member ∈ members, Fits model labels member := fun member isMember tagged =>
      ⟨fun isLabel => (same _).mpr ⟨member, isMember, isLabel, rfl⟩,
        bindable member isMember tagged⟩
    refine ⟨fits, fun label listed => ?_⟩
    rcases (same label).mp listed with ⟨member, isMember, isLabel, named⟩
    rw [all ((silent_iff taken).mpr fits)]
    exact ⟨member, List.mem_filter.mpr ⟨isMember, ofLabel isLabel⟩, isLabel, named⟩

end Members

/-! ## Operations -/

/-- The structure that an operation takes; one without members if it takes nothing. -/
def inputOf (model : Model) (operation : Operation) : Except Fault Shape :=
  if operation.input.isUnit then .ok { id := operation.input, body := .structure [] }
  else model.resolveStructure operation.input

/-- What the parameters of an operation and the issues about them say: the parameters belong to
members of the input in order; nothing is reported exactly if the binding is complete, and then all
members for the URL have parameters. -/
structure Accounted
    (model : Model) (operation : Operation) (labels : List String) (params : List HttpParam)
    (issues : List Issue) (input : Shape) (bound : List Member) : Prop where
  isInput : inputOf model operation = .ok input
  isPart : bound.Sublist input.members
  binds : List.Forall₂ (Binds model input labels) bound params
  silent : issues = [] ↔
    (operation.input.isUnit = true ∧ labels = []) ∨ Complete model labels input.members
  all : issues = [] → bound = input.members.filter fromUrl

theorem reports_httpParams (shape : Shape) (operation : Operation) (binding : HttpBinding) :
    Reports (httpParams emitter shape operation binding) fun params issues =>
      ∃ input bound,
        Accounted emitter.model operation binding.labels params issues input bound := by
  unfold httpParams
  cases isUnit : operation.input.isUnit with
  | true =>
    simp only [if_true]
    refine (reports_warnLabels shape _ _).bind fun _ issues silent => ?_
    refine reports_pure ⟨{ id := operation.input, body := .structure [] }, [], ?_, .slnil, .nil,
      ?_, fun _ => rfl⟩
    · rw [inputOf, isUnit]
      rfl
    · rw [List.append_nil, silent]
      refine ⟨fun none => Or.inl ⟨isUnit, none⟩, ?_⟩
      rintro (⟨-, none⟩ | ⟨same, -⟩)
      · exact none
      · refine List.eq_nil_iff_forall_not_mem.mpr fun label listed => ?_
        rcases (same label).mp listed with ⟨member, isMember, -⟩
        cases isMember
  | false =>
    simp only [Bool.false_eq_true, if_false]
    refine (reports_check _).bind ?_
    rintro input _ ⟨resolved, rfl⟩
    refine (reports_each (reports_memberParam input binding.labels) input.members).bind ?_
    rintro _ _ ⟨outcomes, taken, rfl, rfl⟩
    rcases exists_bound taken with ⟨bound, isPart, binds, all⟩
    have same : (outcomes.map Prod.fst).filterMap id = outcomes.filterMap Prod.fst := by
      rw [List.filterMap_map, Function.id_comp]
    rw [same]
    refine (reports_warnLabels shape _ _).bind fun _ issues silent => ?_
    have none : outcomes.flatMap Prod.snd ++ issues = [] ↔
        Complete emitter.model binding.labels input.members := by
      rw [← complete_iff taken, List.append_eq_nil_iff, silent]
    refine reports_pure ⟨input, bound, ?_, isPart, binds, ?_, ?_⟩
    · rw [inputOf, isUnit]
      exact resolved
    · rw [List.append_nil, List.nil_append, none, isUnit]
      simp
    · intro reported
      exact all (List.append_eq_nil_iff.mp (by simpa using reported)).1

/-- The parameters of an operation belong to members of its input in order, from labels of the path
or from the query.  Nothing is reported exactly if the binding is complete, and then every member
for a label has its parameter and so has every other member for the query. -/
theorem params_complete
    {shape : Shape} {operation : Operation} {binding : HttpBinding}
    {record after : Recorded} {params : List HttpParam}
    (run : (httpParams emitter shape operation binding).run record = (.ok params, after)) :
    ∃ issues input bound, after.issues = record.issues ++ issues ∧
      inputOf emitter.model operation = .ok input ∧
      bound.Sublist input.members ∧
      List.Forall₂ (Binds emitter.model input binding.labels) bound params ∧
      (issues = [] ↔ (operation.input.isUnit = true ∧ binding.labels = []) ∨
        Complete emitter.model binding.labels input.members) ∧
      (issues = [] → ∀ member ∈ input.members,
        (member.traits.isLabel = true → ∃ param ∈ params,
          Binds emitter.model input binding.labels member param ∧
            param.source = .label member.name) ∧
        (member.traits.isLabel = false → ∀ query, member.traits.query? = some query →
          ∃ param ∈ params, Binds emitter.model input binding.labels member param ∧
            param.source = .query query)) := by
  rcases reports_httpParams shape operation binding record after params run with
    ⟨issues, added, input, bound, accounted⟩
  refine ⟨issues, input, bound, added, accounted.isInput, accounted.isPart, accounted.binds,
    accounted.silent, fun none member isMember => ?_⟩
  have found (tagged : fromUrl member = true) :
      ∃ param ∈ params, Binds emitter.model input binding.labels member param := by
    apply exists_partner accounted.binds
    rw [accounted.all none]
    exact List.mem_filter.mpr ⟨isMember, tagged⟩
  constructor
  · intro isLabel
    rcases found (by rw [fromUrl, isLabel, Bool.true_or]) with ⟨param, isParam, binds⟩
    rcases binds.source with ⟨-, -, source⟩ | ⟨noLabel, -⟩
    · exact ⟨param, isParam, binds, source⟩
    · cases isLabel.symm.trans noLabel
  · intro noLabel query isQuery
    rcases found (by simp [fromUrl, isQuery]) with ⟨param, isParam, binds⟩
    rcases binds.source with ⟨isLabel, -⟩ | ⟨-, other, isOther, source⟩
    · cases isLabel.symm.trans noLabel
    · cases isQuery.symm.trans isOther
      exact ⟨param, isParam, binds, source⟩

/-! A forecast for a city, whose number of days comes from the query. -/

namespace Forecast

def city : Member :=
  { name := "city", container := ⟨"weather#Place"⟩, target := .prelude "String",
    traits := [⟨Trait.httpLabel, "\x7b\x7d"⟩] }

def days : Member :=
  { name := "days", container := ⟨"weather#Place"⟩, target := .prelude "Integer",
    traits := [⟨Trait.httpQuery, "\"days\""⟩] }

def place : Shape := { id := ⟨"weather#Place"⟩, body := .structure [city, days] }

def operation : Operation := { input := ⟨"weather#Place"⟩ }

def shape : Shape := { id := ⟨"weather#Forecast"⟩, body := .operation operation }

def binding : HttpBinding := { method := "GET", uri := "/weather/\x7bcity\x7d" }

def weather : Emitter where
  settings := {}
  model := { shapes := [place, shape] }
  plans := []
  plan := {}

def params : List HttpParam :=
  [{ name := "city", field := "City", type := "string", source := .label "city" },
    { name := "days", field := "Days", type := "int", source := .query "days" }]

end Forecast

open Forecast in
theorem params_complete_forecast :
    (httpParams weather shape operation binding).run {} = (.ok params, {}) ∧
      Complete weather.model ["city"] place.members := by
  have run : (httpParams weather shape operation binding).run {} = (.ok params, {}) := rfl
  refine ⟨run, ?_⟩
  rcases params_complete run with ⟨issues, input, bound, added, isInput, -, -, silent, -⟩
  cases isInput
  rcases silent.mp (by simpa using added) with ⟨isUnit, -⟩ | complete
  · cases isUnit
  · exact complete

end ShapeForge.Emit
