import Mathlib.Data.List.Nodup
import Mathlib.Data.List.TakeDrop
import Mathlib.Data.List.TakeWhile
import ShapeForge.Proofs.Model.Reachability
import ShapeForge.Server.Basic

/-!
# Registering routes

Routes are registered one after another, and one whose pattern is taken is left out.  The tree leads
along the steps of a pattern, in which labels have no names, to the operation that was registered
there last.
-/

namespace ShapeForge

/-! ## First items -/

section Firsts

variable {α κ ε : Type} [DecidableEq κ] {key : α → κ}

/-- The items whose keys are not taken, without those whose key an earlier one has. -/
def firsts (key : α → κ) (taken : List κ) : List α → List α
  | [] => []
  | item :: rest =>
    if key item ∈ taken then firsts key taken rest
    else item :: firsts key (key item :: taken) rest

theorem mem_keys_firsts {taken : List κ} {items : List α} {k : κ} :
    k ∈ (firsts key taken items).map key ↔ k ∈ items.map key ∧ k ∉ taken := by
  fun_induction firsts key taken items <;> grind

theorem firsts_subset (taken : List κ) (items : List α) : firsts key taken items ⊆ items := by
  fun_induction firsts key taken items <;> grind

end Firsts

namespace Server

/-! ## Trees of routes -/

namespace RouteTree

variable {α : Type} {method : String} {endpoint : Endpoint α}

/-- What a tree leads to at the end of the steps of a pattern. -/
def at? (method : String) : List Segment → RouteTree α → Option α
  | [], .node endpoints _ => (endpoints.find? (·.1 == method)).map (·.2.target)
  | segment :: rest, .node _ branches =>
    (branches.find? (·.1 == segment)).bind fun branch => at? method rest branch.2

theorem find?_setEndpoint (endpoints : List (String × Endpoint α)) (other : String) :
    ((setEndpoint method endpoint endpoints).find? (·.1 == other)).map (·.2.target) =
      if other = method then some endpoint.target
      else (endpoints.find? (·.1 == other)).map (·.2.target) := by
  induction endpoints with
  | nil => grind [setEndpoint]
  | cons first rest ih => grind [setEndpoint]

theorem filter_swap {one other : Segment × RouteTree α} {between : List (Segment × RouteTree α)}
    (differ : one.1 ≠ other.1)
    (away : ∀ branch ∈ between, branch.1 ≠ one.1 ∧ branch.1 ≠ other.1) (step : Segment) :
    (one :: between ++ [other]).filter (·.1 == step) =
      (other :: between ++ [one]).filter (·.1 == step) := by
  by_cases swapped : step = one.1 ∨ step = other.1
  · have none : between.filter (·.1 == step) = [] := by
      rw [List.filter_eq_nil_iff]
      grind
    grind
  · grind

/-- Branches that are swapped are different steps, so each step keeps its branches in order. -/
theorem filter_slashLast {branch : Segment × RouteTree α} {branches : List (Segment × RouteTree α)}
    (fresh : ∀ other ∈ branches, other.1 ≠ branch.1) (step : Segment) :
    (slashLast (branches ++ [branch])).filter (·.1 == step) =
      (branches ++ [branch]).filter (·.1 == step) := by
  unfold slashLast
  rw [List.reverse_concat]
  simp only [List.span_eq_takeWhile_dropWhile]
  split
  · rfl
  split
  · rfl
  next between found more spanned =>
    rcases Prod.mk.inj spanned with ⟨isBetween, isRest⟩
    have first := List.head?_dropWhile_not (!·.1.endsBeforeSlash) branches.reverse
    have unfound (other) (isKept : other ∈ between) : other.1 ≠ found.1 := by
      intro same
      rw [← isBetween] at isKept
      have stays := List.mem_takeWhile_imp isKept
      rw [same] at stays
      rw [isRest] at first
      exact Bool.false_ne_true (first.symm.trans stays)
    obtain rfl : branches = more.reverse ++ found :: between.reverse := by
      have parts := @List.takeWhile_append_dropWhile _ (!·.1.endsBeforeSlash) branches.reverse
      rw [isBetween, isRest] at parts
      simpa using congrArg List.reverse parts.symm
    have away (other) (isKept : other ∈ between.reverse) :
        other.1 ≠ branch.1 ∧ other.1 ≠ found.1 :=
      ⟨fresh other (by grind), unfound other (List.mem_reverse.mp isKept)⟩
    simpa using filter_swap (fresh found (by simp)).symm away step

theorem find?_addBranch {branch : Segment × RouteTree α} {branches : List (Segment × RouteTree α)}
    (fresh : ∀ other ∈ branches, other.1 ≠ branch.1) (step : Segment) :
    (addBranch branch branches).find? (·.1 == step) =
      (branches ++ [branch]).find? (·.1 == step) := by
  have sorted (ranks : Nat → Bool) :
      (branches.filter (ranks ·.1.rank)).filter (·.1 == step) =
        if ranks step.rank then branches.filter (·.1 == step) else [] := by
    induction branches with
    | nil => simp
    | cons first rest ih => grind
  rw [← List.head?_filter, ← List.head?_filter, addBranch]
  simp only [List.filter_append]
  rw [filter_slashLast, List.filter_append, sorted (· < branch.1.rank), sorted (· == branch.1.rank),
    sorted (branch.1.rank < ·)]
  · grind
  · grind

theorem find?_insertBranch
    {segments : List Segment} {segment : Segment} (branches : List (Segment × RouteTree α))
    (step : Segment) :
    (insertBranch method endpoint segment segments branches).find? (·.1 == step) =
      if step = segment then (branches.find? (·.1 == step)).map fun branch =>
        (branch.1, insert method endpoint segments branch.2)
      else branches.find? (·.1 == step) := by
  induction branches with
  | nil => simp [insertBranch]
  | cons first rest ih =>
    rw [insertBranch]
    grind

theorem at?_single (segments : List Segment) (other : String) (steps : List Segment) :
    (single method endpoint segments).at? other steps =
      if other = method ∧ steps = segments then some endpoint.target else none := by
  induction segments generalizing steps with
  | nil => cases steps <;> grind [single, at?]
  | cons segment rest ih => cases steps <;> grind [single, at?]

/-- A pattern is put at the end of its own steps, and nothing else changes. -/
theorem at?_insert
    (segments : List Segment) (tree : RouteTree α) (other : String) (steps : List Segment) :
    (tree.insert method endpoint segments).at? other steps =
      if other = method ∧ steps = segments then some endpoint.target else tree.at? other steps := by
  induction segments generalizing tree steps with
  | nil =>
    cases tree with
    | node endpoints branches =>
      rw [insert]
      cases steps with
      | nil => simpa [at?] using find?_setEndpoint endpoints other
      | cons step steps => simp [at?]
  | cons segment rest ih =>
    cases tree with
    | node endpoints branches =>
      rw [insert]
      cases steps with
      | nil => split <;> simp [at?]
      | cons step steps =>
        split
        · next listed =>
            rw [at?, find?_insertBranch]
            cases found : branches.find? (·.1 == step) with
            | none => grind [at?]
            | some branch => grind [at?]
        · next unlisted =>
            rw [at?, find?_addBranch (by grind)]
            grind [at?, at?_single]

end RouteTree

/-! ## Routes of the mock server -/

namespace BoundOperation

/-- What is compared when routes are registered. -/
def key (bound : BoundOperation) : String × String :=
  (bound.method, bound.pattern)

/-- A method and the steps of a pattern, in which labels have no names. -/
def placeOf (key : String × String) : String × List Segment :=
  (key.1, ((RoutePattern.parse key.2).toOption.getD default).segments)

end BoundOperation

open BoundOperation (placeOf)

/-- The operation under its route, if it has one. -/
def bound? (item : Shape × Operation) : Option BoundOperation :=
  (bind? item).toOption.join

theorem bound?_eq_some {item : Shape × Operation} {bound : BoundOperation} :
    bound? item = some bound ↔ bind? item = .ok (some bound) := by
  unfold bound?
  cases bind? item <;> simp [Except.toOption]

/-- The tree leads to the operation at the place of its route. -/
def Serves (tree : RouteTree Handler) (bound : BoundOperation) : Prop :=
  let place := placeOf bound.key
  tree.at? place.1 place.2 = some (.operation bound)

theorem at?_register {tree grown : RouteTree Handler} {method pattern : String} {target : Handler}
    (registered : register tree [method] pattern target = .ok grown)
    (place : String × List Segment) :
    grown.at? place.1 place.2 =
      if place = placeOf (method, pattern) then some target else tree.at? place.1 place.2 := by
  rcases bind_eq_ok.mp registered with ⟨parsed, isParsed, registered⟩
  cases registered
  have steps : placeOf (method, pattern) = (method, parsed.segments) := by
    rw [placeOf, isParsed]
    rfl
  simp only [steps, List.foldl_cons, List.foldl_nil, RouteTree.at?_insert, Prod.ext_iff]

/-- What registering operations does: the routes are those of the operations that come first under
their pattern, a place without a route leads where it did, and if the routes are at different places
each leads to its own operation. -/
structure Registered
    (tree : RouteTree Handler) (taken : List (String × String))
    (operations : List (Shape × Operation)) (routes : List BoundOperation)
    (after : RouteTree Handler) : Prop where
  routes_eq : routes = firsts BoundOperation.key taken (operations.filterMap bound?)
  kept : ∀ place ∉ routes.map (placeOf ·.key),
    after.at? place.1 place.2 = tree.at? place.1 place.2
  serves : (∀ bound ∈ routes, Serves after bound) ↔ (routes.map (placeOf ·.key)).Nodup

section Registering

variable {tree grown after : RouteTree Handler} {taken : List (String × String)}
  {item : Shape × Operation} {operations : List (Shape × Operation)} {bound : BoundOperation}
  {routes : List BoundOperation}

/-- A route that is added leads to its operation until one at the same place is added. -/
theorem Registered.add (isBound : bound? item = some bound) (free : bound.key ∉ taken)
    (isGrown : register tree [bound.method] bound.pattern (.operation bound) = .ok grown)
    (registered : Registered grown (bound.key :: taken) operations routes after) :
    Registered tree taken (item :: operations) (bound :: routes) after where
  routes_eq := by rw [List.filterMap_cons_some isBound, firsts, if_neg free, registered.routes_eq]
  kept := by
    intro place apart
    rw [List.map_cons, List.mem_cons, not_or] at apart
    rw [registered.kept place apart.2, at?_register isGrown]
    exact if_neg apart.1
  serves := by
    rw [List.forall_mem_cons, registered.serves, List.map_cons, List.nodup_cons]
    refine and_congr_left fun distinct => ⟨?_, ?_⟩
    · intro served isPlace
      rcases List.mem_map.mp isPlace with ⟨other, isRoute, same⟩
      have alsoServed := registered.serves.mpr distinct other isRoute
      unfold Serves at served alsoServed
      rw [same] at alsoServed
      cases served.symm.trans alsoServed
      have isKey := @List.mem_map_of_mem _ _ _ _ BoundOperation.key isRoute
      rw [registered.routes_eq, mem_keys_firsts] at isKey
      exact isKey.2 List.mem_cons_self
    · intro apart
      rw [Serves, registered.kept _ apart, at?_register isGrown]
      exact if_pos rfl

theorem registered_of_registerAll
    (registered : registerAll tree taken operations = .ok (routes, after)) :
    Registered tree taken operations routes after := by
  induction operations generalizing tree taken routes with
  | nil =>
    cases registered
    exact ⟨rfl, fun _ _ => rfl, by simp⟩
  | cons item rest ih =>
    rw [registerAll] at registered
    rcases bind_eq_ok.mp registered with ⟨found, isFound, registered⟩
    rw [mapError_eq_ok] at isFound
    have isBound : bound? item = found := by
      rw [bound?, isFound]
      rfl
    cases found with
    | none =>
      have later := ih registered
      refine { later with routes_eq := ?_ }
      rw [List.filterMap_cons_none isBound, later.routes_eq]
    | some bound =>
      simp only at registered
      split at registered
      · next isTaken =>
          have later := ih registered
          have isTaken : bound.key ∈ taken := List.contains_iff_mem.mp isTaken
          refine { later with routes_eq := ?_ }
          rw [List.filterMap_cons_some isBound, firsts, if_pos isTaken, later.routes_eq]
      · next free =>
          rcases bind_eq_ok.mp registered with ⟨grown, isGrown, registered⟩
          rcases bind_eq_ok.mp registered with ⟨⟨others, last⟩, areOthers, registered⟩
          cases registered
          exact (ih areOthers).add isBound (mt List.contains_iff_mem.mpr free)
            (mapError_eq_ok.mp isGrown)

end Registering

/-- The routes of a server are those of the operations of its service, as they were registered. -/
theorem registered_of_build {model : Model} {id : ShapeId} {seed listSize : Nat} {server : Server}
    (built : build model id seed listSize = .ok server) :
    ∃ shape service operations tree, selectService model id = .ok (shape, service) ∧
      model.serviceOperations service = .ok operations ∧
      server.model = model ∧ server.mocks = { model, seed, listSize } ∧
      Registered tree [] operations server.routes server.tree := by
  rcases bind_eq_ok.mp built with ⟨⟨shape, service⟩, selected, built⟩
  rcases bind_eq_ok.mp built with ⟨operations, areOperations, built⟩
  rcases bind_eq_ok.mp built with ⟨tree, -, built⟩
  rcases bind_eq_ok.mp built with ⟨⟨routes, after⟩, registered, built⟩
  cases built
  exact ⟨shape, service, operations, tree, mapError_eq_ok.mp selected,
    mapError_eq_ok.mp areOperations, rfl, rfl, registered_of_registerAll registered⟩

end Server

end ShapeForge
