import Mathlib.Data.List.Induction
import ShapeForge.Model.Operations
import ShapeForge.Proofs.Model.Reachability

/-!
# The operations that a service reaches

A service reaches the resources that it lists and, through them, the resources below.  This module
defines that graph and the order in which a walk visits it: a resource comes before the resources
below it, and these come before the resources that are listed after it.  The graph may have cycles
and may share resources.

`Model.walkResources` keeps one list of what is still to be visited.  The proofs go through
`Model.nestedWalk`, in which every resource starts a call of its own for the resources below it;
the calls are nested no deeper than the model has shapes.
-/

namespace ShapeForge

/-- A resource binds an operation in its life cycle, or lists it. -/
def Resource.Binds (resource : Resource) (id : ShapeId) : Prop :=
  (id.isEmpty = false ∧
    (id = resource.create ∨ id = resource.put ∨ id = resource.read ∨ id = resource.update ∨
      id = resource.delete ∨ id = resource.list)) ∨
    id ∈ resource.operations ∨ id ∈ resource.collectionOperations

theorem Resource.mem_bound {resource : Resource} {id : ShapeId} :
    id ∈ resource.bound ↔ resource.Binds id := by
  simp only [bound, Binds, List.mem_append, List.mem_filter, List.mem_cons, List.not_mem_nil,
    or_false, Bool.not_eq_true', or_assoc, and_comm]

namespace Model

variable {model : Model} {id : ShapeId} {fault : Fault} {depth : Nat}

/-! ## Resources and operations by identifier -/

def resource? (model : Model) (id : ShapeId) : Option Resource :=
  (model.lookup? id).bind Shape.resource?

def operation? (model : Model) (id : ShapeId) : Option Operation :=
  (model.lookup? id).bind Shape.operation?

theorem resolveResource_eq_ok {resource : Resource} :
    model.resolveResource id = .ok resource ↔ model.resource? id = some resource := by
  unfold resolveResource resolve resource?
  cases model.lookup? id with
  | none => simp [bind, Except.bind]
  | some shape =>
    cases body : shape.body <;>
      simp [bind, Except.bind, pure, Except.pure, throw, throwThe, MonadExceptOf.throw,
        Shape.resource?, body]

theorem resolveOperation_eq_ok {shape : Shape} {operation : Operation} :
    model.resolveOperation id = .ok (shape, operation) ↔
      model.lookup? id = some shape ∧ shape.operation? = some operation := by
  unfold resolveOperation resolve
  cases model.lookup? id with
  | none => simp [bind, Except.bind]
  | some found =>
    cases body : found.body <;>
      simp [bind, Except.bind, pure, Except.pure, throw, throwThe, MonadExceptOf.throw,
        Shape.operation?] <;>
      grind

/-! ## What a service reaches -/

/-- A resource lists another one below it. -/
def Holds (model : Model) (parent child : ShapeId) : Prop :=
  ∃ resource, model.resource? parent = some resource ∧ child ∈ resource.resources

/-- A resource is reached from one of those listed. -/
def ReachedFrom (model : Model) (listed : List ShapeId) (id : ShapeId) : Prop :=
  ∃ top ∈ listed, Relation.ReflTransGen model.Holds top id

/-- An operation is listed by a service, or bound to a resource that the service reaches. -/
def Offers (model : Model) (service : Service) (id : ShapeId) : Prop :=
  id ∈ service.operations ∨
    ∃ parent resource, model.ReachedFrom service.resources parent ∧
      model.resource? parent = some resource ∧ resource.Binds id

theorem ReachedFrom.mono {listed more : List ShapeId} (reached : model.ReachedFrom listed id)
    (subset : listed ⊆ more) :
    model.ReachedFrom more id := by
  rcases reached with ⟨top, isListed, path⟩
  exact ⟨top, subset isListed, path⟩

theorem ReachedFrom.above {parent : ShapeId} {resource : Resource} {rest : List ShapeId}
    (found : model.resource? parent = some resource)
    (reached : model.ReachedFrom resource.resources id) :
    model.ReachedFrom (parent :: rest) id := by
  rcases reached with ⟨top, isListed, path⟩
  exact ⟨parent, List.mem_cons_self, path.head ⟨resource, found, isListed⟩⟩

theorem reachedFrom_first (id : ShapeId) (rest : List ShapeId) :
    model.ReachedFrom (id :: rest) id :=
  ⟨id, List.mem_cons_self, Relation.ReflTransGen.refl⟩

/-! ## The order of a walk -/

/-- The resources that are visited when those pending are walked one after another and some were
seen before, in the order of their visits. -/
inductive DepthFirst (model : Model) :
    List ShapeId → List ShapeId → List ShapeId → Prop where
  | done {seen} :
      DepthFirst model seen [] []
  | skip {seen id rest order}
      (isSeen : id ∈ seen)
      (later : DepthFirst model seen rest order) :
      DepthFirst model seen (id :: rest) order
  | visit {seen id resource rest below order}
      (unseen : id ∉ seen)
      (found : model.resource? id = some resource)
      (inside : DepthFirst model (seen ++ [id]) resource.resources below)
      (later : DepthFirst model (seen ++ id :: below) rest order) :
      DepthFirst model seen (id :: rest) (id :: below ++ order)

namespace DepthFirst

variable {seen pending order : List ShapeId}

theorem resource (walk : DepthFirst model seen pending order) :
    ∀ id ∈ order, ∃ resource, model.resource? id = some resource := by
  induction walk with
  | done => simp
  | skip _ _ ih => exact ih
  | visit _ found _ _ insideIH laterIH =>
    intro id isVisited
    rcases List.mem_cons.mp isVisited with rfl | isVisited
    · exact ⟨_, found⟩
    · rcases List.mem_append.mp isVisited with isBelow | isLater
      · exact insideIH id isBelow
      · exact laterIH id isLater

theorem reached (walk : DepthFirst model seen pending order) :
    ∀ id ∈ order, model.ReachedFrom pending id := by
  induction walk with
  | done => simp
  | skip _ _ ih =>
    intro id isVisited
    exact (ih id isVisited).mono (List.subset_cons_self _ _)
  | visit _ found _ _ insideIH laterIH =>
    intro id isVisited
    rcases List.mem_cons.mp isVisited with rfl | isVisited
    · exact reachedFrom_first _ _
    · rcases List.mem_append.mp isVisited with isBelow | isLater
      · exact (insideIH id isBelow).above found
      · exact (laterIH id isLater).mono (List.subset_cons_self _ _)

theorem covers_pending (walk : DepthFirst model seen pending order) :
    ∀ id ∈ pending, id ∈ seen ++ order := by
  induction walk with
  | done => simp
  | skip isSeen _ ih =>
    intro id isPending
    rcases List.mem_cons.mp isPending with rfl | isRest
    · exact List.mem_append_left _ isSeen
    · exact ih id isRest
  | visit _ _ _ _ _ laterIH =>
    intro id isPending
    rcases List.mem_cons.mp isPending with rfl | isRest
    · simp
    · simpa using laterIH id isRest

/-- A walk leaves nothing out: what a visited resource lists was seen before or is visited too,
also where the walk below that resource is still under way. -/
theorem closed (walk : DepthFirst model seen pending order) :
    ∀ id ∈ order, ∀ child, model.Holds id child → child ∈ seen ++ order := by
  induction walk with
  | done => simp
  | skip _ _ ih => exact ih
  | @visit seen top resource rest below order _ found inside _ insideIH laterIH =>
    intro id isVisited child holds
    have within : seen ++ [top] ++ below ⊆ seen ++ (top :: below ++ order) := by
      intro other
      simp only [List.mem_append, List.mem_cons, List.not_mem_nil]
      grind
    rcases List.mem_cons.mp isVisited with rfl | isVisited
    · rcases holds with ⟨other, sameId, isListed⟩
      cases found.symm.trans sameId
      exact within (inside.covers_pending child isListed)
    · rcases List.mem_append.mp isVisited with isBelow | isLater
      · exact within (insideIH id isBelow child holds)
      · simpa using laterIH id isLater child holds

/-- A walk from nothing visits exactly the resources that are reached. -/
theorem mem_iff (walk : DepthFirst model [] pending order) (id : ShapeId) :
    id ∈ order ↔ model.ReachedFrom pending id := by
  constructor
  · exact walk.reached id
  · rintro ⟨top, isPending, path⟩
    induction path with
    | refl => simpa using walk.covers_pending top isPending
    | tail _ holds ih => simpa using walk.closed _ ih _ holds

/-- The graph determines the order of a walk. -/
theorem unique {other : List ShapeId} (walk : DepthFirst model seen pending order)
    (otherWalk : DepthFirst model seen pending other) :
    order = other := by
  induction walk generalizing other with
  | done =>
    cases otherWalk
    rfl
  | skip isSeen _ ih =>
    cases otherWalk with
    | skip _ later => exact ih later
    | visit unseen => exact absurd isSeen unseen
  | visit unseen found _ _ insideIH laterIH =>
    cases otherWalk with
    | skip isSeen => exact absurd isSeen unseen
    | visit _ sameId inside later =>
      cases found.symm.trans sameId
      cases insideIH inside
      rw [laterIH later]

end DepthFirst

/-! ## Collecting operations -/

def boundTo (model : Model) (id : ShapeId) : List ShapeId :=
  ((model.resource? id).map Resource.bound).getD []

variable {ids : List ShapeId} {found : Collected}

theorem boundTo_of_resource {resource : Resource} (found : model.resource? id = some resource) :
    model.boundTo id = resource.bound := by
  simp [boundTo, found]

/-- The operations collected from identifiers: the first occurrence of each, as the model has
them. -/
structure Gathered (model : Model) (ids : List ShapeId) (found : Collected) : Prop where
  ids_eq : found.map (·.1.id) = ids.eraseDups
  resolved : ∀ entry ∈ found,
    model.lookup? entry.1.id = some entry.1 ∧ entry.1.operation? = some entry.2

theorem eraseDups_concat (ids : List ShapeId) (id : ShapeId) :
    (ids ++ [id]).eraseDups = if id ∈ ids then ids.eraseDups else ids.eraseDups ++ [id] := by
  rw [List.eraseDups_append]
  by_cases isListed : id ∈ ids
  · simp [List.removeAll, isListed]
  · simp [List.removeAll, isListed, List.eraseDups_cons]

theorem nodup_eraseDups (ids : List ShapeId) : ids.eraseDups.Nodup := by
  induction ids using List.reverseRecOn with
  | nil => simp
  | append_singleton ids id ih =>
    rw [eraseDups_concat]
    split
    · exact ih
    · rename_i unlisted
      rw [List.nodup_append]
      refine ⟨ih, by simp, ?_⟩
      rintro other isListed _ same rfl
      rw [List.mem_singleton.mp same] at isListed
      exact unlisted (List.mem_eraseDups.mp isListed)

theorem gathered_nil : Gathered model [] [] :=
  ⟨rfl, by simp⟩

theorem Gathered.mem_ids (gathered : Gathered model ids found) :
    (∃ entry ∈ found, entry.1.id = id) ↔ id ∈ ids := by
  rw [← List.mem_eraseDups, ← gathered.ids_eq, List.mem_map]

theorem Gathered.operation (gathered : Gathered model ids found) (isListed : id ∈ ids) :
    ∃ operation, model.operation? id = some operation := by
  rcases gathered.mem_ids.mpr isListed with ⟨entry, isFound, rfl⟩
  rcases gathered.resolved entry isFound with ⟨defined, isOperation⟩
  exact ⟨entry.2, by rw [operation?, defined]; exact isOperation⟩

theorem Gathered.concat {entry : Shape × Operation} (gathered : Gathered model ids found)
    (fresh : id ∉ ids) (resolved : model.resolveOperation id = .ok entry) :
    Gathered model (ids ++ [id]) (found ++ [entry]) := by
  rcases resolveOperation_eq_ok.mp resolved with ⟨defined, isOperation⟩
  have sameId : entry.1.id = id := id_of_lookup? defined
  constructor
  · rw [eraseDups_concat, if_neg fresh, List.map_append, gathered.ids_eq]
    simp [sameId]
  · intro other isFound
    rcases List.mem_append.mp isFound with isOld | isNew
    · exact gathered.resolved other isOld
    · rw [List.mem_singleton.mp isNew, sameId]
      exact ⟨defined, isOperation⟩

theorem Gathered.addOperations {before : List ShapeId} {result : Collected}
    (gathered : Gathered model before found) (added : model.addOperations found ids = .ok result) :
    Gathered model (before ++ ids) result := by
  induction ids generalizing before found with
  | nil =>
    cases added
    simpa using gathered
  | cons id rest ih =>
    rw [Model.addOperations] at added
    rw [List.append_cons]
    split at added
    · rename_i isFound
      have isListed : id ∈ before := by
        apply gathered.mem_ids.mp
        simpa using isFound
      refine ih ⟨?_, gathered.resolved⟩ added
      rw [eraseDups_concat, if_pos isListed, gathered.ids_eq]
    · rename_i notFound
      have fresh : id ∉ before := by
        intro isListed
        exact notFound (by simpa using gathered.mem_ids.mpr isListed)
      rcases bind_eq_ok.mp added with ⟨entry, resolved, added⟩
      exact ih (gathered.concat fresh resolved) added

theorem fault_of_addOperations (failed : model.addOperations found ids = .error fault) :
    ∃ id ∈ ids, model.resolveOperation id = .error fault := by
  induction ids generalizing found with
  | nil => cases failed
  | cons id rest ih =>
    rw [Model.addOperations] at failed
    split at failed
    · rcases ih failed with ⟨other, isRest, unresolved⟩
      exact ⟨other, List.mem_cons_of_mem _ isRest, unresolved⟩
    · cases resolved : model.resolveOperation id with
      | ok entry =>
        rw [resolved] at failed
        rcases ih failed with ⟨other, isRest, unresolved⟩
        exact ⟨other, List.mem_cons_of_mem _ isRest, unresolved⟩
      | error other =>
        rw [resolved] at failed
        cases failed
        exact ⟨id, List.mem_cons_self, resolved⟩

theorem operation?_eq_none (unresolved : model.resolveOperation id = .error fault) :
    model.operation? id = none := by
  cases isOperation : model.operation? id with
  | none => rfl
  | some operation =>
    rcases Option.bind_eq_some_iff.mp isOperation with ⟨shape, defined, same⟩
    cases unresolved.symm.trans (resolveOperation_eq_ok.mpr ⟨defined, same⟩)

theorem resource?_eq_none (unresolved : model.resolveResource id = .error fault) :
    model.resource? id = none := by
  cases isResource : model.resource? id with
  | none => rfl
  | some resource => cases unresolved.symm.trans (resolveResource_eq_ok.mpr isResource)

/-- A walk fails as the resource or the operation does that it cannot resolve. -/
theorem fault_of_walkResources {pending visited : List ShapeId}
    (failed : model.walkResources pending visited found = .error fault) :
    ∃ id, model.ReachedFrom pending id ∧
      (model.resolveResource id = .error fault ∨
        ∃ resource, model.resource? id = some resource ∧
          ∃ operation ∈ resource.bound, model.resolveOperation operation = .error fault) := by
  fun_induction walkResources model pending visited found with
  | case1 => cases failed
  | case2 _ _ _ _ _ ih =>
    rcases ih failed with ⟨other, reached, unresolved⟩
    exact ⟨other, reached.mono (List.subset_cons_self _ _), unresolved⟩
  | case3 _ _ id rest _ _ unresolved =>
    cases failed
    exact ⟨id, reachedFrom_first id rest, .inl unresolved⟩
  | case4 _ _ id rest _ resource resolved _ added =>
    cases failed
    exact ⟨id, reachedFrom_first id rest,
      .inr ⟨resource, resolveResource_eq_ok.mp resolved, fault_of_addOperations added⟩⟩
  | case5 _ _ id rest _ resource resolved _ _ ih =>
    rcases ih failed with ⟨other, ⟨top, isListed, path⟩, unresolved⟩
    refine ⟨other, ?_, unresolved⟩
    rcases List.mem_append.mp isListed with isBelow | isRest
    · exact ReachedFrom.above (resolveResource_eq_ok.mp resolved) ⟨top, isBelow, path⟩
    · exact ⟨top, List.mem_cons_of_mem _ isRest, path⟩

/-! ## The walk by nested calls -/

/-- The walk in which the resources below a resource are walked by a call of their own, before the
rest.  There is no result where calls would be nested deeper than they may. -/
def nestedWalk (model : Model) (depth : Nat) (pending visited : List ShapeId)
    (found : Collected) : Option (Except Fault (List ShapeId × Collected)) :=
  match pending with
  | [] => some (.ok (visited, found))
  | id :: rest =>
    if visited.contains id then nestedWalk model depth rest visited found
    else
      match model.resolveResource id with
      | .error fault => some (.error fault)
      | .ok resource =>
        match model.addOperations found resource.bound, depth with
        | .error fault, _ => some (.error fault)
        | .ok _, 0 => none
        | .ok found, depth + 1 =>
          match nestedWalk model depth resource.resources (id :: visited) found with
          | none => none
          | some (.error fault) => some (.error fault)
          | some (.ok (visited, found)) => nestedWalk model (depth + 1) rest visited found
termination_by (depth, pending.length)

section Equations

variable {rest visited : List ShapeId} {found : Collected}

theorem walkResources_skip (isVisited : visited.contains id = true) :
    model.walkResources (id :: rest) visited found = model.walkResources rest visited found := by
  rw [walkResources, dif_pos isVisited]

theorem walkResources_visit (fresh : ¬visited.contains id = true) :
    model.walkResources (id :: rest) visited found =
      (model.resolveResource id).bind fun resource =>
        (model.addOperations found resource.bound).bind fun added =>
          model.walkResources (resource.resources ++ rest) (id :: visited) added := by
  rw [walkResources, dif_neg fresh]
  cases resolved : model.resolveResource id with
  | error fault => rfl
  | ok resource =>
    simp only [Except.bind]
    cases model.addOperations found resource.bound <;> rfl

end Equations

variable {pending visited seen : List ShapeId} {found : Collected}
  {outcome : Except Fault (List ShapeId × Collected)}

/-- Walking what a resource lists by a call of its own comes to the same as putting it in front of
what is pending. -/
theorem walkResources_append
    (walked : model.nestedWalk depth pending visited found = some outcome) (rest : List ShapeId) :
    model.walkResources (pending ++ rest) visited found =
      outcome.bind fun walked => model.walkResources rest walked.1 walked.2 := by
  fun_induction nestedWalk model depth pending visited found generalizing outcome rest with
  | case1 depth visited found =>
    cases walked
    rfl
  | case2 depth visited found id pending isVisited ih =>
    rw [List.cons_append, walkResources_skip isVisited]
    exact ih walked rest
  | case3 depth visited found id pending fresh fault unresolved =>
    cases walked
    rw [List.cons_append, walkResources_visit fresh, unresolved]
    rfl
  | case4 depth visited found id pending fresh resource resolved fault failed =>
    cases walked
    rw [List.cons_append, walkResources_visit fresh, resolved]
    simp only [Except.bind, failed]
  | case5 | case6 => cases walked
  | case7 visited found id pending fresh resource resolved added depth isAdded fault inside ih =>
    cases walked
    rw [List.cons_append, walkResources_visit fresh, resolved]
    simp only [Except.bind, isAdded]
    exact ih inside _
  | case8 visited found id pending fresh resource resolved added depth isAdded visited' found'
      inside insideIH laterIH =>
      rw [List.cons_append, walkResources_visit fresh, resolved]
      simp only [Except.bind, isAdded]
      rw [insideIH inside]
      exact laterIH walked rest

/-- A walk visits resources in depth-first order and collects what is bound to them. -/
theorem nestedWalk_eq_ok {after : List ShapeId} {result : Collected}
    (walked : model.nestedWalk depth pending visited found = some (.ok (after, result)))
    (isSeen : visited = seen.reverse) :
    ∃ order, model.DepthFirst seen pending order ∧ after = (seen ++ order).reverse ∧
      ∀ ids, model.Gathered ids found →
        model.Gathered (ids ++ order.flatMap model.boundTo) result := by
  fun_induction nestedWalk model depth pending visited found generalizing seen after result with
  | case1 depth visited found =>
    cases walked
    exact ⟨[], .done, by simpa using isSeen, by simp⟩
  | case2 depth visited found id pending isVisited ih =>
    rcases ih walked isSeen with ⟨order, walk, same, gathers⟩
    exact ⟨order, .skip (by simpa [isSeen] using isVisited) walk, same, gathers⟩
  | case3 | case4 | case5 | case6 | case7 => cases walked
  | case8 visited found id pending fresh resource resolved added depth isAdded visited' found'
      inside insideIH laterIH =>
      have isResource := resolveResource_eq_ok.mp resolved
      have unseen : id ∉ seen := by simpa [isSeen] using fresh
      have isSeen : id :: visited = (seen ++ [id]).reverse := by simp [isSeen]
      rcases insideIH inside isSeen with ⟨below, walkBelow, same, gathersBelow⟩
      rw [List.append_assoc] at same
      rcases laterIH walked same with ⟨order, walk, rfl, gathers⟩
      refine ⟨id :: below ++ order, .visit unseen isResource walkBelow walk, by simp, ?_⟩
      intro ids gathered
      have gathered := gathers _ (gathersBelow _ (gathered.addOperations isAdded))
      simpa [boundTo_of_resource isResource] using gathered

def unvisited (model : Model) (visited : List ShapeId) : Nat :=
  model.shapes.countP fun shape => !visited.contains shape.id

theorem unvisited_cons_lt {resource : Resource} (fresh : ¬visited.contains id = true)
    (resolved : model.resolveResource id = .ok resource) :
    model.unvisited (id :: visited) < model.unvisited visited := by
  rcases mem_of_resolveResource resolved with ⟨shape, isShape, rfl⟩
  refine countP_lt_countP ?_ isShape (by simpa using fresh) (by simp)
  intro other isOther
  simp only [List.contains_cons, Bool.not_or, Bool.and_eq_true] at isOther
  exact isOther.2

theorem unvisited_append_le (model : Model) (more visited : List ShapeId) :
    model.unvisited (more ++ visited) ≤ model.unvisited visited := by
  apply List.countP_mono_left
  intro shape _
  simp only [List.contains_eq_mem, List.mem_append, Bool.not_eq_true', decide_eq_false_iff_not]
  exact fun fresh isVisited => fresh (Or.inr isVisited)

/-- Every nested call visits a resource that was not visited before, so calls are nested no deeper
than there are shapes left. -/
theorem nestedWalk_isSome (enough : model.unvisited visited ≤ depth)
    (isSeen : visited = seen.reverse) :
    ∃ outcome, model.nestedWalk depth pending visited found = some outcome := by
  fun_induction nestedWalk model depth pending visited found generalizing seen with
  | case1 | case3 | case4 | case7 => exact ⟨_, rfl⟩
  | case2 depth visited found id pending isVisited ih => exact ih enough isSeen
  | case5 visited found id pending fresh resource resolved =>
    have fewer := unvisited_cons_lt fresh resolved
    omega
  | case6 visited found id pending fresh resource resolved added depth isAdded inside ih =>
    have fewer := unvisited_cons_lt fresh resolved
    have isSeen : id :: visited = (seen ++ [id]).reverse := by simp [isSeen]
    rcases ih (by omega) isSeen with ⟨outcome, walked⟩
    cases inside.symm.trans walked
  | case8 visited found id pending fresh resource resolved added depth isAdded visited' found'
      inside insideIH laterIH =>
      have fewer := unvisited_cons_lt fresh resolved
      have isSeen : id :: visited = (seen ++ [id]).reverse := by simp [isSeen]
      rcases nestedWalk_eq_ok inside isSeen with ⟨order, -, same, -⟩
      have grown : visited' = order.reverse ++ id :: visited := by
        simp [same, isSeen]
      have noMore := model.unvisited_append_le order.reverse (id :: visited)
      rw [← grown] at noMore
      exact laterIH (by omega) same

/-! ## All operations of a service -/

/-- The operations of a service, collected by nested calls. -/
def nestedOperations (model : Model) (depth : Nat) (service : Service) :
    Option (Except Fault Collected) :=
  match model.addOperations [] service.operations with
  | .error fault => some (.error fault)
  | .ok found => (model.nestedWalk depth service.resources [] found).map (·.map Prod.snd)

variable {service : Service}

theorem walkResources_eq {pending visited : List ShapeId} {found : Collected}
    {outcome : Except Fault (List ShapeId × Collected)}
    (walked : model.nestedWalk depth pending visited found = some outcome) :
    model.walkResources pending visited found = outcome.map Prod.snd := by
  have same := walkResources_append walked []
  rw [List.append_nil] at same
  rw [same]
  cases outcome with
  | error fault => rfl
  | ok walked =>
    simp only [Except.bind, Except.map]
    rw [walkResources]

theorem nestedWalk_size (model : Model) (pending : List ShapeId) (found : Collected) :
    ∃ outcome, model.nestedWalk model.size pending [] found = some outcome :=
  nestedWalk_isSome List.countP_le_length (show [] = [].reverse from rfl)

theorem nestedOperations_size (model : Model) (service : Service) :
    model.nestedOperations model.size service = some (model.serviceOperations service) := by
  unfold nestedOperations serviceOperations
  cases model.addOperations [] service.operations with
  | error fault => rfl
  | ok found =>
    rcases nestedWalk_size model service.resources found with ⟨outcome, walked⟩
    simp only [bind, Except.bind]
    rw [walkResources_eq walked, walked]
    rfl

theorem fault_of_serviceOperations (failed : model.serviceOperations service = .error fault) :
    (∃ id, model.Offers service id ∧ model.resolveOperation id = .error fault) ∨
      ∃ id, model.ReachedFrom service.resources id ∧ model.resolveResource id = .error fault := by
  unfold serviceOperations at failed
  cases own : model.addOperations [] service.operations with
  | error other =>
    rw [own] at failed
    cases failed
    rcases fault_of_addOperations own with ⟨id, isListed, failed⟩
    exact .inl ⟨id, .inl isListed, failed⟩
  | ok found =>
    rw [own] at failed
    rcases fault_of_walkResources failed with
      ⟨id, reached, failed | ⟨resource, isResource, operation, isBound, failed⟩⟩
    · exact .inr ⟨id, reached, failed⟩
    · have binds := Resource.mem_bound.mp isBound
      exact .inl ⟨operation, .inr ⟨id, resource, reached, isResource, binds⟩, failed⟩

/-- A service has its operations unless some of what it reaches is missing or of another kind. -/
theorem serviceOperations_cases (model : Model) (service : Service) :
    (∃ found order, model.serviceOperations service = .ok found ∧
      model.DepthFirst [] service.resources order ∧
      model.Gathered (service.operations ++ order.flatMap model.boundTo) found) ∨
    ∃ fault, model.serviceOperations service = .error fault ∧
      ((∃ id, model.Offers service id ∧ model.operation? id = none) ∨
        ∃ id, model.ReachedFrom service.resources id ∧ model.resource? id = none) := by
  cases listed : model.serviceOperations service with
  | error fault =>
    refine Or.inr ⟨fault, rfl, (fault_of_serviceOperations listed).imp ?_ ?_⟩
    · rintro ⟨id, offered, unresolved⟩
      exact ⟨id, offered, operation?_eq_none unresolved⟩
    · rintro ⟨id, reached, missing⟩
      exact ⟨id, reached, resource?_eq_none missing⟩
  | ok found =>
    rcases bind_eq_ok.mp listed with ⟨own, added, walked⟩
    rcases nestedWalk_size model service.resources own with ⟨outcome, isOutcome⟩
    rw [walkResources_eq isOutcome] at walked
    cases outcome with
    | error fault => cases walked
    | ok result =>
      cases walked
      have isSeen : ([] : List ShapeId) = [].reverse := rfl
      rcases nestedWalk_eq_ok isOutcome isSeen with ⟨order, walk, -, gathers⟩
      exact Or.inl ⟨result.2, order, rfl, walk, gathers _ (gathered_nil.addOperations added)⟩

theorem mem_shapes_of_serviceOperations
    {model : Model} {service : Service} {found : List (Shape × Operation)}
    (listed : model.serviceOperations service = .ok found) :
    ∀ item ∈ found, item.1 ∈ model.shapes := by
  rcases model.serviceOperations_cases service with
    ⟨result, _, succeeded, -, gathered⟩ | ⟨fault, failed, -⟩
  · cases succeeded.symm.trans listed
    intro item isFound
    exact List.mem_of_find?_eq_some (gathered.resolved item isFound).1
  · cases failed.symm.trans listed

theorem offers_iff {order : List ShapeId}
    (walk : model.DepthFirst [] service.resources order) (id : ShapeId) :
    id ∈ service.operations ++ order.flatMap model.boundTo ↔ model.Offers service id := by
  rw [List.mem_append, List.mem_flatMap]
  constructor
  · rintro (isListed | ⟨parent, isVisited, isBound⟩)
    · exact Or.inl isListed
    · rcases walk.resource parent isVisited with ⟨resource, found⟩
      rw [boundTo_of_resource found] at isBound
      exact Or.inr ⟨parent, resource, (walk.mem_iff parent).mp isVisited, found,
        Resource.mem_bound.mp isBound⟩
  · rintro (isListed | ⟨parent, resource, reached, found, binds⟩)
    · exact Or.inl isListed
    · refine Or.inr ⟨parent, (walk.mem_iff parent).mpr reached, ?_⟩
      rw [boundTo_of_resource found]
      exact Resource.mem_bound.mpr binds

/-- The operations of a service are those that it reaches, whatever the graph of its resources: the
calls of the walk are nested no deeper than the model has shapes; the walk fails exactly if
something that is reached is missing or of another kind; and otherwise every operation that is
listed or bound stands once in the result, those of the service first and then those of the
resources in depth-first order. -/
theorem serviceOperations_reached (model : Model) (service : Service) :
    model.nestedOperations model.size service = some (model.serviceOperations service) ∧
    ((∃ fault, model.serviceOperations service = .error fault) ↔
      (∃ id, model.Offers service id ∧ model.operation? id = none) ∨
        ∃ id, model.ReachedFrom service.resources id ∧ model.resource? id = none) ∧
    ((∀ id, model.Offers service id → ∃ operation, model.operation? id = some operation) →
      (∀ id, model.ReachedFrom service.resources id →
        ∃ resource, model.resource? id = some resource) →
      ∃ found order, model.serviceOperations service = .ok found ∧
        (found.map (·.1.id)).Nodup ∧
        (∀ id, id ∈ found.map (·.1.id) ↔ model.Offers service id) ∧
        (∀ entry ∈ found,
          model.lookup? entry.1.id = some entry.1 ∧ entry.1.operation? = some entry.2) ∧
        model.DepthFirst [] service.resources order ∧
        found.map (·.1.id) = service.operations.eraseDups ++
          ((order.flatMap model.boundTo).removeAll service.operations).eraseDups) := by
  refine ⟨nestedOperations_size model service, ?_, ?_⟩
  · rcases serviceOperations_cases model service with
      ⟨found, order, succeeded, walk, gathered⟩ | ⟨fault, failed, unresolved⟩
    · constructor
      · rintro ⟨fault, failed⟩
        cases succeeded.symm.trans failed
      · rintro (⟨id, offered, unresolved⟩ | ⟨id, reached, missing⟩)
        · rcases gathered.operation ((offers_iff walk id).mpr offered) with ⟨operation, resolved⟩
          cases unresolved.symm.trans resolved
        · rcases walk.resource id ((walk.mem_iff id).mpr reached) with ⟨resource, resolved⟩
          cases missing.symm.trans resolved
    · exact ⟨fun _ => unresolved, fun _ => ⟨fault, failed⟩⟩
  · intro operations resources
    rcases serviceOperations_cases model service with
      ⟨found, order, succeeded, walk, gathered⟩ |
        ⟨fault, failed, ⟨id, offered, unresolved⟩ | ⟨id, reached, missing⟩⟩
    · refine ⟨found, order, succeeded, ?_, ?_, gathered.resolved, walk, ?_⟩
      · rw [gathered.ids_eq]
        exact nodup_eraseDups _
      · intro id
        rw [gathered.ids_eq, List.mem_eraseDups, offers_iff walk]
      · rw [gathered.ids_eq, List.eraseDups_append]
    · rcases operations id offered with ⟨operation, resolved⟩
      cases unresolved.symm.trans resolved
    · rcases resources id reached with ⟨resource, resolved⟩
      cases missing.symm.trans resolved

/-! A desk at which shelves and books are asked for, which hold each other. -/

namespace Library

def shelfId : ShapeId := ⟨"example.library#Shelf"⟩

def bookId : ShapeId := ⟨"example.library#Book"⟩

def getShelfId : ShapeId := ⟨"example.library#GetShelf"⟩

def getBookId : ShapeId := ⟨"example.library#GetBook"⟩

def searchId : ShapeId := ⟨"example.library#Search"⟩

def shelf : Resource := { read := getShelfId, resources := [bookId] }

def book : Resource :=
  { read := getBookId, operations := [searchId], resources := [shelfId, bookId] }

def operationShape (id : ShapeId) : Shape := { id, body := .operation {} }

def catalog : Model :=
  { shapes :=
      [{ id := shelfId, body := .resource shelf }, { id := bookId, body := .resource book },
        operationShape getShelfId, operationShape getBookId, operationShape searchId] }

def desk : Service :=
  { operations := [searchId, searchId], resources := [shelfId, bookId] }

theorem resource_cases {id : ShapeId} {resource : Resource}
    (found : catalog.resource? id = some resource) :
    id = shelfId ∧ resource = shelf ∨ id = bookId ∧ resource = book := by
  rcases Option.bind_eq_some_iff.mp found with ⟨shape, defined, isResource⟩
  have sameId := id_of_lookup? defined
  have isShape := List.mem_of_find?_eq_some defined
  have resources : ∀ shape ∈ catalog.shapes, ∀ resource, shape.resource? = some resource →
      shape.id = shelfId ∧ resource = shelf ∨ shape.id = bookId ∧ resource = book := by
    simp [catalog, Shape.resource?, operationShape]
  rw [← sameId]
  exact resources shape isShape resource isResource

theorem reached_cases {id : ShapeId} (reached : catalog.ReachedFrom desk.resources id) :
    id = shelfId ∨ id = bookId := by
  rcases reached with ⟨top, isListed, path⟩
  induction path with
  | refl => simpa [desk] using isListed
  | tail _ holds _ =>
    rcases holds with ⟨resource, found, isListed⟩
    rcases resource_cases found with ⟨-, rfl⟩ | ⟨-, rfl⟩
    · right
      simpa [shelf] using isListed
    · simpa [book] using isListed

theorem walk : catalog.DepthFirst [] desk.resources [shelfId, bookId] := by
  have fromBook : catalog.DepthFirst [shelfId, bookId] book.resources [] :=
    .skip (by decide) (.skip (by decide) .done)
  have fromShelf : catalog.DepthFirst [shelfId] shelf.resources (bookId :: [] ++ []) :=
    .visit (by decide) (by decide) fromBook .done
  have isShelf : catalog.resource? shelfId = some shelf := by decide
  exact .visit (List.not_mem_nil) isShelf fromShelf (.skip (by decide) .done)

end Library

/-- Shelves and books of the library are each visited once, and a search that is listed three
times is found once. -/
theorem serviceOperations_reached_library :
    (∀ id, Library.catalog.Offers Library.desk id →
      ∃ operation, Library.catalog.operation? id = some operation) ∧
    (∀ id, Library.catalog.ReachedFrom Library.desk.resources id →
      ∃ resource, Library.catalog.resource? id = some resource) ∧
    ∃ found, Library.catalog.serviceOperations Library.desk = .ok found ∧
      (∀ id, id ∈ found.map (·.1.id) ↔ Library.catalog.Offers Library.desk id) ∧
      found.map (·.1.id) = [Library.searchId, Library.getShelfId, Library.getBookId] := by
  have resources (id : ShapeId)
      (reached : Library.catalog.ReachedFrom Library.desk.resources id) :
      ∃ resource, Library.catalog.resource? id = some resource := by
    rcases Library.reached_cases reached with rfl | rfl
    · exact ⟨Library.shelf, by decide⟩
    · exact ⟨Library.book, by decide⟩
  have bound : ∀ id ∈ Library.desk.operations ++ Library.shelf.bound ++ Library.book.bound,
      (Library.catalog.operation? id).isSome = true := by decide
  have operations (id : ShapeId) (offered : Library.catalog.Offers Library.desk id) :
      ∃ operation, Library.catalog.operation? id = some operation := by
    apply Option.isSome_iff_exists.mp
    apply bound
    rcases offered with isListed | ⟨parent, resource, -, found, binds⟩
    · simp [isListed]
    · have isBound := Resource.mem_bound.mpr binds
      rcases Library.resource_cases found with ⟨-, rfl⟩ | ⟨-, rfl⟩ <;> simp [isBound]
  rcases (serviceOperations_reached Library.catalog Library.desk).2.2 operations resources with
    ⟨found, order, succeeded, -, members, -, walk, ids⟩
  refine ⟨operations, resources, found, succeeded, members, ?_⟩
  rw [ids, ← Library.walk.unique walk]
  decide

end Model

end ShapeForge
