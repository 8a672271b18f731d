import ShapeForge.Model.Basic

/-!
# The operations of a service

A service lists operations and resources; a resource binds operations and has resources below
it.  `Model.serviceOperations` collects them all: first those of the service, then those of the
resources in the order of a walk that visits a resource before the resources below it.  Every
resource is visited once, so the walk ends even where resources contain each other.
-/

namespace ShapeForge.Model

abbrev Collected := List (Shape × Operation)

/-- Add operations by identifier; one that is already there is passed over. -/
def addOperations (model : Model) : Collected → List ShapeId → Except Fault Collected
  | found, [] => .ok found
  | found, id :: rest =>
    if found.any (·.1.id == id) then addOperations model found rest
    else do
      let operation ← model.resolveOperation id
      addOperations model (found ++ [operation]) rest

theorem countP_lt_countP {α : Type} {smaller larger : α → Bool} {items : List α} {item : α}
    (implies : ∀ other, smaller other = true → larger other = true)
    (member : item ∈ items) (holds : larger item = true) (fails : smaller item = false) :
    items.countP smaller < items.countP larger := by
  induction items with
  | nil => cases member
  | cons head rest ih =>
    rcases List.mem_cons.1 member with rfl | below
    · have bound : rest.countP smaller ≤ rest.countP larger :=
        List.countP_mono_left fun other _ => implies other
      simp only [List.countP_cons, holds, fails]
      simp
      omega
    · have step := ih below
      simp only [List.countP_cons]
      by_cases first : smaller head = true
      · simp [first, implies head first]
        omega
      · simp [first]
        omega

theorem mem_of_resolveResource {model : Model} {id : ShapeId} {resource : Resource}
    (resolved : model.resolveResource id = .ok resource) :
    ∃ shape ∈ model.shapes, shape.id = id := by
  unfold resolveResource resolve lookup? at resolved
  cases found : model.shapes.find? (·.id == id) with
  | none => simp [found, bind, Except.bind] at resolved
  | some shape =>
    refine ⟨shape, List.mem_of_find?_eq_some found, ?_⟩
    simpa using List.find?_some found

/-- Visit resources, and below each of them the resources that it lists, before the next. -/
def walkResources (model : Model) (pending visited : List ShapeId) (found : Collected) :
    Except Fault Collected :=
  match pending with
  | [] => .ok found
  | id :: rest =>
    if _seen : visited.contains id then walkResources model rest visited found
    else
      match _resolved : model.resolveResource id with
      | .error fault => .error fault
      | .ok resource =>
        match model.addOperations found resource.bound with
        | .error fault => .error fault
        | .ok found =>
          walkResources model (resource.resources ++ rest) (id :: visited) found
termination_by (model.shapes.countP fun shape => !visited.contains shape.id, pending.length)
decreasing_by
  · exact Prod.Lex.right _ (by simp)
  · obtain ⟨shape, member, rfl⟩ := mem_of_resolveResource _resolved
    refine Prod.Lex.left _ _ (countP_lt_countP ?_ member ?_ ?_)
    · intro other fresh
      simp at fresh ⊢
      exact fresh.2
    · simpa using _seen
    · simp

def serviceOperations (model : Model) (service : Service) : Except Fault Collected := do
  let found ← model.addOperations [] service.operations
  model.walkResources service.resources [] found

end ShapeForge.Model
