import Mathlib.Algebra.GroupWithZero.Nat
import ShapeForge.Proofs.Emit.Severity
import ShapeForge.Proofs.Model.Merging

/-!
# The books of a generation run

Every selected namespace is settled once: by a package, or by a critical issue that stands under its
name.  The counts, the totals and the failure that a run reports all follow from how the namespaces
were settled, whatever was recorded on the way.
-/

namespace ShapeForge.Emit

open Recording

variable {space : String} {settings : Settings} {loaded : LoadedModel}

/-! ## Plans -/

theorem map_space_planFrom
    (modulePath : String) (overrides : List (String × String)) (taken spaces : List String) :
    (planFrom modulePath overrides taken spaces).map (·.space) = spaces := by
  induction spaces generalizing taken with
  | nil => rfl
  | cons space rest ih => rw [planFrom, List.map_cons, ih, planOne]

theorem planOf?_planPackages {modulePath : String} {overrides : List (String × String)}
    {spaces : List String} (planned : space ∈ spaces) :
    ∃ plan, planOf? (planPackages modulePath overrides spaces) space = some plan ∧
      plan.space = space := by
  have isPlan : space ∈ (planPackages modulePath overrides spaces).map (·.space) := by
    rw [planPackages, map_space_planFrom]
    exact planned
  rcases List.mem_map.mp isPlan with ⟨plan, isPlan, named⟩
  cases found : planOf? (planPackages modulePath overrides spaces) space with
  | none =>
    have unplanned := List.find?_eq_none.mp found plan (List.mem_reverse.mpr isPlan)
    exact absurd (beq_iff_eq.mpr named) unplanned
  | some first => exact ⟨first, rfl, by simpa using List.find?_some found⟩

theorem ensures_space (emitter : Emitter) :
    Ensures (buildPackage emitter) fun built => built.1.space = emitter.plan.space := by
  unfold buildPackage
  refine ensures_bind fun contents => ?_
  refine ensures_bind fun docFile => ?_
  refine ensures_bind fun files => ?_
  refine ensures_bind fun _ => ?_
  exact ensures_pure rfl

/-! ## Outcomes -/

namespace Outcome

/-- What the outcome of a namespace is worth: a package is one of the namespace, and nothing but a
failure is critical. -/
structure Sound (outcome : Outcome) : Prop where
  named : ∀ package, outcome.result = .ok package → package.space = outcome.space
  mild : ∀ issue ∈ outcome.issues, issue.severity ≠ some .critical

def succeeded (outcome : Outcome) : Bool :=
  outcome.package?.isSome

end Outcome

theorem space_outcomeOf
    (settings : Settings) (loaded : LoadedModel) (merged : Merged) (plans : List PackagePlan)
    (space : String) :
    (outcomeOf settings loaded merged plans space).space = space := by
  unfold outcomeOf
  split <;> rfl

theorem sound_outcomeOf {merged : Merged} {plans : List PackagePlan} {plan : PackagePlan}
    (found : planOf? plans space = some plan) (named : plan.space = space) :
    (outcomeOf settings loaded merged plans space).Sound := by
  unfold outcomeOf
  split
  · refine ⟨?_, mild_of_emitPackage _⟩
    intro package emitted
    rcases map_eq_ok.mp emitted with ⟨built, isBuilt, rfl⟩
    have planned := ensures_space _ {} built isBuilt
    rw [planned, found]
    exact named
  · exact ⟨nofun, by simp⟩

/-! ## Counting -/

section Counting

variable {outcomes : List Outcome}

theorem space_of_package? {outcome : Outcome} {package : Package}
    (sound : outcome.Sound) (emitted : outcome.package? = some package) :
    package.space = outcome.space :=
  sound.named package (eq_ok_of_toOption emitted)

end Counting

/-! ## Accounts -/

/-- The namespaces that a run has to generate. -/
def Selected (settings : Settings) (loaded : LoadedModel) (space : String) : Prop :=
  (∃ shape ∈ loaded.model.shapes, shape.id.nameSpace = space) ∧
    space ≠ ShapeId.preludeSpace ∧ (settings.namespaces = [] ∨ space ∈ settings.namespaces)

theorem mem_selectSpaces :
    space ∈ selectSpaces settings.namespaces loaded.model.namespaces ↔
      Selected settings loaded space := by
  simp only [selectSpaces, List.mem_filter, Model.mem_namespaces, Selected, Bool.and_eq_true,
    Bool.or_eq_true, bne_iff_ne, List.isEmpty_iff, List.contains_iff_mem]

section Result

variable {dependencies : Dependencies} {outcomes : List Outcome}

theorem map_space_packages (sound : ∀ outcome ∈ outcomes, outcome.Sound) :
    (outcomes.filterMap Outcome.package?).map (·.space) =
      (outcomes.filter Outcome.succeeded).map (·.space) := by
  induction outcomes with
  | nil => rfl
  | cons outcome rest ih =>
    rcases List.forall_mem_cons.mp sound with ⟨first, others⟩
    rw [List.filterMap_cons, List.filter_cons, Outcome.succeeded]
    cases emitted : outcome.package? with
    | none => simpa using ih others
    | some package => simp [space_of_package? first emitted, ih others]

end Result

/-! ## Runs -/

section Silenced

variable (emitter : Emitter) (shows : Bool)

end Silenced

section Run

variable {merged : Merged}

def outcomesOf (settings : Settings) (loaded : LoadedModel) (merged : Merged) : List Outcome :=
  (selectSpaces settings.namespaces loaded.model.namespaces).map
    (outcomeOf settings loaded merged
      (planPackages settings.module settings.overrides merged.model.namespaces))

theorem generateLoaded_eq (merges : merge settings loaded = .ok merged) :
    generateLoaded settings loaded =
      let outcomes := outcomesOf settings loaded merged
      let result := resultOf settings loaded merged.dependencies outcomes
      .ok (result, failureOf settings outcomes result) := by
  unfold generateLoaded
  rw [merges]
  rfl

theorem map_space_outcomesOf :
    (outcomesOf settings loaded merged).map (·.space) =
      selectSpaces settings.namespaces loaded.model.namespaces := by
  simp [outcomesOf, Function.comp_def, space_outcomeOf]

/-- The namespaces of a model are planned with those of what is merged into it. -/
theorem sound_outcomesOf {model : Model}
    (merges : loaded.model.merge (settings.dependencies.map (·.1)) = .ok model)
    (same : merged.model = model) :
    ∀ outcome ∈ outcomesOf settings loaded merged, outcome.Sound := by
  intro outcome isOutcome
  rcases List.mem_map.mp isOutcome with ⟨space, isSpace, rfl⟩
  rcases (mem_selectSpaces.mp isSpace).1 with ⟨shape, isShape, named⟩
  have planned : space ∈ merged.model.namespaces := by
    rw [Model.mem_namespaces, same, Model.shapes_merge merges]
    exact ⟨shape, List.mem_append_left _ isShape, named⟩
  rcases planOf?_planPackages planned with ⟨plan, found, named⟩
  exact sound_outcomeOf found named

theorem ascending_outcomesOf :
    ((outcomesOf settings loaded merged).map (·.space)).Pairwise (· < ·) := by
  rw [map_space_outcomesOf]
  exact (Text.pairwise_sortedDistinct _).filter _

end Run

end ShapeForge.Emit
