import ShapeForge.Proofs.Emit.Accounting
import ShapeForge.Proofs.Emit.Qualifiers

/-!
# Names under which packages are imported

Other packages refer to the package of a namespace by an alias.  Aliases are planned for one
namespace after another, and without regard to the packages of the standard library.  They are
distinct, and different from the names of standard packages in a file, only under conditions that
are stated here exactly.
-/

namespace ShapeForge.Emit

open Recording

/-! ## Distinct aliases -/

/-- The package name of a namespace whose segments are run together. -/
def runTogether (space : String) : String :=
  Naming.packageName (Text.replaceAll space "." "")

/-- What holds of the items of a list behind those before them. -/
theorem forall_split_cons {α : Type} {first : α} {rest : List α} {property : List α → α → Prop} :
    (∀ before item after, first :: rest = before ++ item :: after → property before item) ↔
      property [] first ∧
        ∀ before item after, rest = before ++ item :: after → property (first :: before) item := by
  constructor
  · intro all
    refine ⟨all [] first rest rfl, ?_⟩
    rintro before item after rfl
    exact all (first :: before) item after rfl
  · rintro ⟨ofFirst, ofRest⟩ before item after split
    cases before with
    | nil =>
      cases split
      exact ofFirst
    | cons other before =>
      cases split
      exact ofRest before item after rfl

section Plans

variable (modulePath : String) (overrides : List (String × String))

theorem shortName_planOne (taken : List String) (space : String) :
    let plan := planOne modulePath overrides taken space
    plan.shortName = if plan.name ∈ taken then runTogether plan.space else plan.name := by
  simp only [planOne, runTogether, List.contains_iff_mem]

/-- Aliases stay distinct, and apart from those that are taken, unless both choices of a namespace
are taken when it is planned. -/
theorem distinct_planFrom (taken spaces : List String) :
    let plans := planFrom modulePath overrides taken spaces
    ((plans.map (·.shortName)).Nodup ∧ ∀ plan ∈ plans, plan.shortName ∉ taken) ↔
      ∀ before plan after, plans = before ++ plan :: after →
        plan.name ∈ before.map (·.shortName) ∨ plan.name ∈ taken →
          runTogether plan.space ∉ before.map (·.shortName) ∧ runTogether plan.space ∉ taken := by
  induction spaces generalizing taken with
  | nil => simp [planFrom]
  | cons space rest ih =>
    have chosen := shortName_planOne modulePath overrides taken space
    have later := ih ((planOne modulePath overrides taken space).shortName :: taken)
    simp only [planFrom, forall_split_cons] at chosen later ⊢
    generalize planOne modulePath overrides taken space = plan at chosen later ⊢
    have ofPlan : plan.shortName ∉ taken ↔
        (plan.name ∈ taken → runTogether plan.space ∉ taken) := by
      rw [chosen]
      split <;> simp [*]
    simp only [List.map_cons, List.nodup_cons, List.mem_cons, List.mem_map] at later ⊢
    grind

/-- Every namespace has one alias: the name of its package, or its own name run together where that
one is taken.  The aliases are distinct exactly if no namespace finds both taken by namespaces that
were planned before it. -/
theorem aliases_distinct (spaces : List String) :
    let plans := planPackages modulePath overrides spaces
    plans.map (·.space) = spaces ∧
      (∀ plan ∈ plans, plan.shortName = plan.name ∨ plan.shortName = runTogether plan.space) ∧
      ((plans.map (·.shortName)).Nodup ↔
        ∀ before plan after, plans = before ++ plan :: after →
          plan.name ∈ before.map (·.shortName) →
            runTogether plan.space ∉ before.map (·.shortName)) := by
  intro plans
  refine ⟨map_space_planFrom _ _ _ _, fun plan isPlan => ?_, ?_⟩
  · rcases planOne_of_mem isPlan with ⟨taken, space, -, rfl⟩
    have chosen := shortName_planOne modulePath overrides taken space
    simp only at chosen
    split at chosen
    · exact Or.inr chosen
    · exact Or.inl chosen
  · simpa [plans, planPackages] using distinct_planFrom modulePath overrides [] spaces

/-- The last of these namespaces finds its name taken, and running it together changes nothing. -/
theorem aliases_repeated_bb :
    ["a.b", "b.b", "bb"].Pairwise (· < ·) ∧
      (∀ space ∈ ["a.b", "b.b", "bb"], (ShapeId.parse (space ++ "#Unit")).toBool = true) ∧
      (planPackages "generated" [] ["a.b", "b.b", "bb"]).map (·.shortName) = ["b", "bb", "bb"] := by
  decide

end Plans

/-! ## Standard packages -/

/-- A package of the standard library is imported, and another package under its name. -/
def Shadowed (imports : Imports) : Prop :=
  ∃ path ∈ standardPaths, standard path ∈ imports ∧
    ∃ entry ∈ imports, entry.1 ≠ path ∧ entry.2 = (standard path).2

/-- The code needs a package of the standard library, and that of a namespace which has its name as
alias. -/
def Clashing (scope : Scope) (needs : Imports) : Prop :=
  ∃ path ∈ standardPaths, standard path ∈ needs ∧
    ∃ space ∈ scope.model.namespaces, scope.importOf space ∈ needs ∧ scope.pathOf space ≠ path ∧
      (scope.package space).1 = (standard path).2

section Emitted

variable {emitter : Emitter}

theorem needed_of_emitted {package : Package} {bodies : List FileBody}
    (emitted : (emitPackage emitter).1 = .ok (package, bodies)) :
    ∃ contents files, Accepted emitter contents ∧
      bodies = { name := docName, items := some (docItems emitter contents.services) } :: files ∧
      List.Forall₂ (Needed emitter contents) CodeFile.all files := by
  rw [emitPackage_fst] at emitted
  exact ensures_bodies (fun contents _ file => ensures_needed contents file) {} _ emitted

/-- Standard packages do not shadow one another. -/
theorem clashing_of_shadowed {scope : Scope} {imports needs : Imports}
    (within : ∀ entry ∈ imports, scope.Known entry ∧ entry ∈ needs) (shadowed : Shadowed imports) :
    Clashing scope needs := by
  have names : ∀ path ∈ standardPaths, ∀ other ∈ standardPaths,
      (standard other).2 = (standard path).2 → other = path := by
    decide
  rcases shadowed with ⟨path, isStandard, isImport, entry, isThere, otherPath, sameName⟩
  rcases within entry isThere with ⟨⟨other, alsoStandard, rfl⟩ | ⟨space, isSpace, rfl⟩, isNeeded⟩
  · exact absurd (names path isStandard other alsoStandard sameName) otherPath
  · exact ⟨path, isStandard, (within _ isImport).2, space, isSpace, isNeeded, otherPath, sameName⟩

/-- A file of an emitted package imports another package under the name of a standard one only if
its code needs both and the alias that is planned for a namespace is that name.  If the paths of the
packages are separate it does so in each of these cases. -/
theorem standard_names_kept
    {package : Package} {bodies : List FileBody}
    (emitted : (emitPackage emitter).1 = .ok (package, bodies)) :
    ∃ contents doc files, Accepted emitter contents ∧ bodies = doc :: files ∧ doc.imports = [] ∧
      List.Forall₂ (fun file code => code.name = file.name ∧
        (Shadowed code.imports → Clashing emitter.scope (file.needs emitter contents)) ∧
        (emitter.scope.Separate → Clashing emitter.scope (file.needs emitter contents) →
          Shadowed code.imports)) CodeFile.all files := by
  rcases needed_of_emitted emitted with ⟨contents, files, accepted, same, written⟩
  refine ⟨contents, _, files, accepted, same, rfl, written.imp ?_⟩
  rintro file code ⟨named, within, whole⟩
  refine ⟨named, clashing_of_shadowed within, ?_⟩
  rintro separate ⟨path, isStandard, isNeeded, space, -, alsoNeeded, otherPath, sameName⟩
  exact ⟨path, isStandard, whole separate _ isNeeded, _, whole separate _ alsoNeeded, otherPath,
    sameName⟩

end Emitted

open Booth in
theorem standard_names_kept_booth :
    ∃ package bodies, (emitPackage (emitter false)).1 = .ok (package, bodies) ∧
      ∃ types ∈ bodies, types.name = "types.go" ∧ ¬Shadowed types.imports := by
  rcases emitted_package false with ⟨package, bodies, emitted⟩
  rcases standard_names_kept emitted with ⟨contents, doc, files, accepted, rfl, -, kept⟩
  obtain rfl := contents_eq false accepted
  rcases exists_partner kept .types (by decide) with ⟨types, isFile, named, only, -⟩
  refine ⟨package, _, emitted, types, List.mem_cons_of_mem _ isFile, named, mt only ?_⟩
  rintro ⟨path, isStandard, isNeeded, -⟩
  revert path
  decide +kernel

/-! A tower clock that is built at some time, in the zone of a namespace called `time`. -/

namespace Tower

def zone : Shape where
  id := ⟨"city.time#Zone"⟩
  body := .simple .string

def tower : Shape where
  id := ⟨"city.clock#Tower"⟩
  body := .structure
    [{ name := "zone", container := ⟨"city.clock#Tower"⟩, target := ⟨"city.time#Zone"⟩ },
      { name := "built", container := ⟨"city.clock#Tower"⟩, target := ⟨"smithy.api#Timestamp"⟩ }]

def emitter : Emitter where
  settings := {}
  model := { version := "2.0", shapes := [zone, tower] }
  plans := planPackages "generated" [] ["city.clock", "city.time"]
  plan := planOne "generated" [] [] "city.clock"

theorem gives_contents : Gives (contents emitter) { services := [], shapes := [tower] } :=
  fun _ => rfl

theorem succeeds_items (file : CodeFile) :
    Succeeds (file.items emitter { services := [], shapes := [tower] }) := by
  cases file <;> exact fun _ => ⟨_, rfl⟩

end Tower

open Tower in
/-- The package of the zone and that of the standard library are both imported as `time`. -/
theorem standard_name_shadowed_tower :
    ∃ package bodies, (emitPackage emitter).1 = .ok (package, bodies) ∧
      ∃ types ∈ bodies, types.name = "types.go" ∧ Shadowed types.imports := by
  rcases exists_emitted gives_contents succeeds_items with ⟨package, bodies, emitted⟩
  have separate : emitter.scope.Separate := by
    constructor <;> decide +kernel
  rcases needed_of_emitted emitted with ⟨contents, files, accepted, rfl, written⟩
  obtain rfl := accepted.eq_of_gives gives_contents
  rcases exists_partner written .types (by decide) with ⟨types, isFile, named, -, whole⟩
  refine ⟨package, _, emitted, types, List.mem_cons_of_mem _ isFile, named, "time", by decide,
    whole separate _ ?_, ("generated/city/time", "time"), whole separate _ ?_, by decide, ?_⟩
  all_goals decide +kernel

end ShapeForge.Emit
