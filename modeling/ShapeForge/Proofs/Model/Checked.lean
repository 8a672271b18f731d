import ShapeForge.Proofs.Model.Dangling
import ShapeForge.Proofs.Model.Operations

/-!
# Checked models

A check passes over empty targets and over those of the prelude.  These are the only ones that can
be missing afterwards: what a service reaches, and the input and output of its operations, are
otherwise defined, and can only be of another kind than their use needs.
-/

namespace ShapeForge.Model

/-- What remains to fail after a check where a shape of some kind is needed: there is one of another
kind, or there is none and the check asks for none. -/
inductive Unmet (model : Model) (kind : ShapeKind) (id : ShapeId) : Fault → Prop where
  | misplaced {shape : Shape}
      (defined : model.lookup? id = some shape)
      (other : shape.kind ≠ kind) :
      Unmet model kind id (wrongKind shape id)
  | unchecked
      (absent : model.lookup? id = none)
      (exempt : id.isEmpty = true ∨ id.isPrelude = true) :
      Unmet model kind id (.reference id.text "" "")

section

variable {model : Model} {shape : Shape} {service : Service} {kind : ShapeKind} {id : ShapeId}
  {fault : Fault}

/-- To resolve a shape is to look it up and to test its kind. -/
theorem Unmet.of_resolve {α : Type} {test : Shape → Except Fault α}
    (accepted : model.accepts id = true)
    (tested : ∀ shape fault, test shape = .error fault →
      shape.kind ≠ kind ∧ fault = wrongKind shape id)
    (failed : model.resolve id >>= test = .error fault) :
    model.Unmet kind id fault := by
  unfold resolve at failed
  cases defined : model.lookup? id with
  | none =>
    rw [defined] at failed
    cases failed
    refine .unchecked defined ?_
    simpa [accepts, defines, defined] using accepted
  | some shape =>
    rw [defined] at failed
    rcases tested shape fault failed with ⟨other, rfl⟩
    exact .misplaced defined other

theorem unmet_of_resolveStructure (accepted : model.accepts id = true)
    (failed : model.resolveStructure id = .error fault) :
    model.Unmet .struct id fault := by
  refine .of_resolve accepted (fun shape fault failed => ?_) failed
  split at failed
  next => cases failed
  next other =>
    cases failed
    exact ⟨by simpa using other, rfl⟩

theorem unmet_of_resolveOperation (accepted : model.accepts id = true)
    (failed : model.resolveOperation id = .error fault) :
    model.Unmet .operation id fault := by
  refine .of_resolve accepted (fun shape fault failed => ?_) failed
  split at failed
  next => cases failed
  next other =>
    cases failed
    refine ⟨fun isOperation => ?_, rfl⟩
    unfold Shape.kind at isOperation
    cases body : shape.body <;> simp_all [ShapeBody.kind]

theorem unmet_of_resolveResource (accepted : model.accepts id = true)
    (failed : model.resolveResource id = .error fault) :
    model.Unmet .resource id fault := by
  refine .of_resolve accepted (fun shape fault failed => ?_) failed
  split at failed
  next => cases failed
  next other =>
    cases failed
    refine ⟨fun isResource => ?_, rfl⟩
    unfold Shape.kind at isResource
    cases body : shape.body <;> simp_all [ShapeBody.kind]

/-- An input or output is given unless it is no structure. -/
theorem fault_of_ioType {scope : Scope} {imports : Imports}
    (failed : ((scope.ioType id).run imports).1 = .error fault) :
    id.isUnit = false ∧ scope.model.resolveStructure id = .error fault := by
  unfold Scope.ioType at failed
  split at failed
  next => cases failed
  next notUnit =>
    refine ⟨by simpa using notUnit, ?_⟩
    cases resolved : scope.model.resolveStructure id with
    | error other =>
      rw [resolved] at failed
      cases failed
      rfl
    | ok shape =>
      rw [resolved, Scope.qualify, Scope.qualifyName] at failed
      split at failed <;> cases failed

section Checked

variable (checked : model.check = .ok ())

include checked

theorem accepts_of_check (isShape : shape ∈ model.shapes) (reference : Reference)
    (isReference : reference ∈ shape.references) :
    model.accepts reference.target = true := by
  have none := check_eq_ok.mp checked
  rw [dangling, List.filter_eq_nil_iff] at none
  simpa using none reference (List.mem_flatMap.mpr ⟨shape, isShape, isReference⟩)

theorem accepts_of_resource {parent : ShapeId} {resource : Resource}
    (found : model.resource? parent = some resource) :
    (∀ id, resource.Binds id → model.accepts id = true) ∧
      ∀ id ∈ resource.resources, model.accepts id = true := by
  rcases Option.bind_eq_some_iff.mp found with ⟨shape, defined, isResource⟩
  have isShape := List.mem_of_find?_eq_some defined
  have body : shape.body = .resource resource := by
    unfold Shape.resource? at isResource
    split at isResource <;> simp_all
  have accepted (id : ShapeId) (isListed : id ∈ resource.bound ++ resource.resources) :
      model.accepts id = true := by
    refine accepts_of_check checked isShape ⟨shape.id, id⟩ ?_
    simp only [Shape.references, body]
    exact List.mem_append_right _ (List.mem_map_of_mem isListed)
  exact ⟨fun id binds => accepted id (List.mem_append_left _ (Resource.mem_bound.mpr binds)),
    fun id isBelow => accepted id (List.mem_append_right _ isBelow)⟩

theorem accepts_of_reached {listed : List ShapeId}
    (accepted : ∀ id ∈ listed, model.accepts id = true) (reached : model.ReachedFrom listed id) :
    model.accepts id = true := by
  rcases reached with ⟨top, isListed, path⟩
  rcases path.cases_tail with rfl | ⟨parent, -, resource, found, isBelow⟩
  · exact accepted _ isListed
  · exact (accepts_of_resource checked found).2 id isBelow

theorem accepts_of_service (isService : (shape, service) ∈ model.services) :
    (∀ id, model.Offers service id → model.accepts id = true) ∧
      ∀ id, model.ReachedFrom service.resources id → model.accepts id = true := by
  rcases List.mem_filterMap.mp isService with ⟨_, isShape, given⟩
  rcases Option.map_eq_some_iff.mp given with ⟨_, isService, same⟩
  cases same
  have body : shape.body = .service service := by
    unfold Shape.service? at isService
    split at isService <;> simp_all
  have accepted (id : ShapeId) (isListed : id ∈ service.operations ++ service.resources) :
      model.accepts id = true := by
    refine accepts_of_check checked isShape ⟨shape.id, id⟩ ?_
    simp only [Shape.references, body]
    exact List.mem_map_of_mem (List.mem_append_left _ isListed)
  constructor
  · rintro id (isListed | ⟨parent, resource, -, found, binds⟩)
    · exact accepted id (List.mem_append_left _ isListed)
    · exact (accepts_of_resource checked found).1 id binds
  · intro id
    apply accepts_of_reached checked
    exact fun id isListed => accepted id (List.mem_append_right _ isListed)

theorem accepts_of_operation {operation : Operation} (found : model.operation? id = some operation)
    {target : ShapeId} (isUsed : target = operation.input ∨ target = operation.output) :
    model.accepts target = true := by
  rcases Option.bind_eq_some_iff.mp found with ⟨shape, defined, isOperation⟩
  have body : shape.body = .operation operation := by
    unfold Shape.operation? at isOperation
    split at isOperation <;> simp_all
  refine accepts_of_check checked (List.mem_of_find?_eq_some defined) ⟨shape.id, target⟩ ?_
  simp only [Shape.references, body]
  exact List.mem_map_of_mem (by simpa using isUsed.imp_right .inl)

end Checked

/-- After a check, a service can only fail to have its operations where it reaches a shape of
another kind or one that the check passes over; and the same holds for the types of the inputs and
outputs of its operations. -/
theorem faults_of_checked (checked : model.check = .ok ()) :
    ∀ entry ∈ model.services,
      (∀ fault, model.serviceOperations entry.2 = .error fault →
        (∃ id, model.Offers entry.2 id ∧ model.Unmet .operation id fault) ∨
          ∃ id, model.ReachedFrom entry.2.resources id ∧ model.Unmet .resource id fault) ∧
      ∀ id operation, model.Offers entry.2 id → model.operation? id = some operation →
        ∀ target, target = operation.input ∨ target = operation.output →
          ∀ (scope : Scope) imports fault, scope.model = model →
            ((scope.ioType target).run imports).1 = .error fault →
            target.isUnit = false ∧ model.Unmet .struct target fault := by
  rintro ⟨shape, service⟩ isService
  rcases accepts_of_service checked isService with ⟨ofOffered, ofReached⟩
  constructor
  · intro fault failed
    refine (fault_of_serviceOperations failed).imp ?_ ?_
    · rintro ⟨id, offered, failed⟩
      exact ⟨id, offered, unmet_of_resolveOperation (ofOffered id offered) failed⟩
    · rintro ⟨id, reached, failed⟩
      exact ⟨id, reached, unmet_of_resolveResource (ofReached id reached) failed⟩
  · rintro id operation - found target isUsed scope imports fault rfl failed
    rcases fault_of_ioType failed with ⟨given, unresolved⟩
    exact ⟨given, unmet_of_resolveStructure (accepts_of_operation checked found isUsed) unresolved⟩

end

/-! A counter with a type of the prelude among its operations, and with another one as the input of
an operation. -/

namespace Counter

open ShapeForge.Document (Value)

def document : Value :=
  .plainObject [("smithy", .plainText "2.0"), ("shapes", .plainObject
    [("counter#Buy", .plainObject [("type", .plainText "operation"),
        ("input", .plainReference "smithy.api#Document")]),
      ("counter#Counter", .plainObject [("type", .plainText "service"),
        ("operations", .plainArray
          [.plainReference "counter#Buy", .plainReference "smithy.api#String"])])])]

def buy : Operation := { input := ⟨"smithy.api#Document"⟩ }

def service : Service := { operations := [⟨"counter#Buy"⟩, ⟨"smithy.api#String"⟩] }

def shape : Shape := { id := ⟨"counter#Counter"⟩, line := 1, body := .service service }

def model : Model :=
  { version := "2.0"
    shapes := [{ id := ⟨"counter#Buy"⟩, line := 1, body := .operation buy }, shape] }

def scope : Scope := { model, space := "counter" }

end Counter

/-- The counter passes the check, and has a reference that is not defined. -/
theorem check_counter :
    Load.model "counter.json" Counter.document = .ok Counter.model ∧
      Counter.model.check = .ok () ∧
      (Counter.shape, Counter.service) ∈ Counter.model.services ∧
      Counter.model.lookup? ⟨"smithy.api#String"⟩ = none ∧
      Counter.model.serviceOperations Counter.service =
        .error (.reference "smithy.api#String" "" "") :=
  ⟨rfl, rfl, by decide, rfl, rfl⟩

theorem faults_of_checked_counter :
    Counter.model.check = .ok () ∧
      ((∃ id, Counter.model.Offers Counter.service id ∧
          Counter.model.Unmet .operation id (.reference "smithy.api#String" "" "")) ∨
        ∃ id, Counter.model.ReachedFrom Counter.service.resources id ∧
          Counter.model.Unmet .resource id (.reference "smithy.api#String" "" "")) ∧
      Counter.model.Unmet .struct ⟨"smithy.api#Document"⟩
        (.reference "smithy.api#Document" "" "") := by
  have checked : Counter.model.check = .ok () := rfl
  have faults := faults_of_checked checked (Counter.shape, Counter.service) (by decide)
  have offered : Counter.model.Offers Counter.service ⟨"counter#Buy"⟩ := .inl List.mem_cons_self
  exact ⟨checked, faults.1 _ rfl,
    (faults.2 _ Counter.buy offered rfl _ (.inl rfl) Counter.scope [] _ rfl rfl).2⟩

end ShapeForge.Model
