import ShapeForge.Proofs.Emit.Imports
import ShapeForge.Proofs.Emit.PackageComment

/-!
# Qualifiers in emitted files

A file of code imports exactly what the code in it needs.  The imports are those of
`CodeFile.needs`, which is computed from what the package declares, and the code depends on the
packages of no other namespaces.
-/

namespace ShapeForge.Emit

open Recording
open Code (Item)
open Scope (Adds adds_pure adds_throw)

/-! ## Steps of building -/

/-- The emitter for which packages are planned otherwise. -/
def Emitter.under (emitter : Emitter) (plans : List PackagePlan) : Emitter :=
  { emitter with plans }

/-- A step of building to a value with a property, which adds imports to those that were recorded
before. -/
abbrev BuildsTo
    {α : Type} (property : α → Prop) (emitter : Emitter) (plans : List PackagePlan)
    (needs : Imports) (step : Emitter → Build α) : Prop :=
  Adds emitter.scope (packageOf emitter.settings.module plans) Recorded.imports needs property
    (step emitter) (step (emitter.under plans))

/-- A step of building that adds imports to those that were recorded before. -/
abbrev Builds
    {α : Type} (emitter : Emitter) (plans : List PackagePlan) (needs : Imports)
    (step : Emitter → Build α) : Prop :=
  BuildsTo (fun _ => True) emitter plans needs step

section Emitted

variable {α β : Type} {emitter : Emitter} {plans : List PackagePlan} {scope : Scope} {mocks : Mocks}

theorem builds_emit {needs : Imports} {emission : Scope → Emission α}
    (emits : emitter.scope.Emits (packageOf emitter.settings.module plans) needs emission) :
    Builds emitter plans needs fun emitter => Build.emit (emission emitter.scope) := by
  intro recorded value known succeeded
  have added := emits recorded.imports value known succeeded
  exact ⟨added.holds, added.known, added.within, added.whole, fun agrees before same =>
    added.alike agrees before.imports same⟩

theorem builds_check (result : Except Fault α) :
    BuildsTo (fun value => result = .ok value) emitter plans [] fun _ => Build.check result :=
  fun _ _ known succeeded =>
    ⟨succeeded, known, fun _ => Or.inl, fun _ _ => (or_iff_left List.not_mem_nil).mp,
      fun _ _ same => ⟨succeeded, same⟩⟩

theorem builds_issue (shape : Shape) (message : String) (severity : Severity) :
    Builds emitter plans [] (·.shapeIssue shape message severity) :=
  fun _ _ known _ =>
    ⟨True.intro, known, fun _ => Or.inl, fun _ _ => (or_iff_left List.not_mem_nil).mp,
      fun _ _ same => ⟨rfl, same⟩⟩

theorem builds_each {step : Emitter → α → Build β} {needs : α → Imports} {property : α → β → Prop}
    {items : List α}
    (ofItem : ∀ item ∈ items, BuildsTo (property item) emitter plans (needs item) (step · item)) :
    BuildsTo (List.Forall₂ property items) emitter plans (items.flatMap needs)
      fun emitter => Build.each (step emitter) items := by
  induction items with
  | nil => exact adds_pure .nil
  | cons item rest ih =>
    obtain ⟨ofFirst, ofRest⟩ := List.forall_mem_cons.mp ofItem
    rw [List.flatMap_cons]
    refine ofFirst.bind fun first isFirst => ?_
    exact (ih ofRest).return fun results areRest => .cons isFirst areRest

/-! ## Types -/

/-- The imports that the pattern of a simple type needs: only texts have patterns, and the matcher
of a pattern that can be compiled is compiled by `regexp`. -/
def patternNeeds (kind : SimpleKind) (pattern : String) : Imports :=
  if kind != .string && kind != .document then []
  else match Pattern.check pattern with
    | .error _ => []
    | .ok _ => [standard "regexp"]

def simpleNeeds (kind : SimpleKind) (pattern? : Option String) : Imports :=
  (if kind == .timestamp then [standard "time"] else []) ++
    match pattern? with
    | none => []
    | some pattern => patternNeeds kind pattern

/-- The imports that the declaration of a data shape needs: those of the types of its parts. -/
def shapeNeeds (scope : Scope) (shape : Shape) : Imports :=
  match shape.body with
  | .simple kind => simpleNeeds kind shape.traits.pattern?
  | body => body.parts.flatMap scope.memberNeeds

theorem builds_patternItems (shape : Shape) (kind : SimpleKind) (name pattern : String) :
    Builds emitter plans (patternNeeds kind pattern)
      (patternItems · shape kind name pattern) := by
  unfold patternNeeds patternItems
  split
  · exact (builds_issue shape _ _).done
  · cases Pattern.check pattern with
    | error problem => exact (builds_issue shape _ _).done
    | ok parsed =>
      exact (builds_emit (Scope.emits_use (by decide))).done

theorem builds_simpleItems (shape : Shape) (kind : SimpleKind) :
    Builds emitter plans (simpleNeeds kind shape.traits.pattern?)
      (simpleItems · shape kind) := by
  unfold simpleNeeds simpleItems
  cases kind.goType? with
  | none => exact adds_throw _ _
  | some type =>
    refine Adds.after_if (builds_emit (Scope.emits_use (by decide))) ?_
    cases shape.traits.pattern? with
    | none => exact adds_pure True.intro
    | some pattern =>
      exact (builds_patternItems shape kind _ pattern).done

theorem builds_fieldText (shape : Shape) (member : Member) :
    Builds emitter plans (emitter.scope.memberNeeds member)
      (fieldText · shape member) := by
  refine (builds_emit (Scope.emits_fieldType member)).ends fun field _ => ?_
  have issue : Builds emitter plans []
      (·.shapeIssue shape ("streaming member " ++ member.name ++ " is generated as a plain " ++
        field.1) .info) :=
    builds_issue shape _ _
  by_cases streamed : member.traits.isStreaming
  · simp only [streamed, if_true]
    exact issue.done
  · simp only [streamed]
    exact adds_pure True.intro

theorem builds_typeExpr {member : Member} {type : TypeRef}
    (classified : emitter.model.classifyMember member = .ok type) :
    Builds emitter plans (emitter.scope.memberNeeds member)
      fun emitter => Build.emit (emitter.scope.typeExpr type) := by
  have inScope : emitter.scope.model.classifyMember member = .ok type := classified
  rw [Scope.memberNeeds, inScope]
  exact builds_emit (Scope.emits_typeExpr (Model.classifyMember_eq_ok.mp classified))

theorem builds_shapeItems (shape : Shape) :
    Builds emitter plans (shapeNeeds emitter.scope shape) (shapeItems · shape) := by
  unfold shapeNeeds shapeItems
  cases shape.body with
  | simple kind => exact builds_simpleItems shape kind
  | list item =>
    simp only [ShapeBody.parts, List.flatMap_singleton]
    refine (builds_check _).then fun type classified => ?_
    exact (builds_typeExpr classified).done
  | map key value =>
    simp only [ShapeBody.parts, List.flatMap_cons, List.flatMap_nil, List.append_nil]
    refine (builds_check _).then fun keyType keyClassified => ?_
    refine (builds_check _).then fun valueType valueClassified => ?_
    refine (builds_typeExpr keyClassified).bind fun _ _ => ?_
    exact (builds_typeExpr valueClassified).done
  | «structure» members =>
    exact (builds_each fun member _ => builds_fieldText shape member).done
  | enumeration _ _ | operation _ | resource _ | service _ => exact adds_pure True.intro

theorem builds_typesBody (shapes : List Shape) :
    Builds emitter plans (shapes.flatMap (shapeNeeds emitter.scope))
      (typesBody · shapes) :=
  (builds_each fun shape _ => builds_shapeItems shape).done

/-! ## Interfaces, mocks and tests -/

def signatureNeeds (scope : Scope) (operation : Operation) : Imports :=
  scope.ioNeeds operation.input ++ scope.ioNeeds operation.output

/-- The imports that the errors of an operation need, which its comment lists. -/
def errorNeeds (scope : Scope) (info : ServiceInfo) (operation : Operation) : Imports :=
  (distinct (operation.errors ++ info.service.errors)).flatMap fun id => scope.foreign id.nameSpace

/-- The imports that interfaces need; every method takes a context. -/
def serviceNeeds (scope : Scope) (services : List ServiceInfo) : Imports :=
  standard "context" :: services.flatMap fun info => info.operations.flatMap fun item =>
    signatureNeeds scope item.2 ++ errorNeeds scope info item.2

/-- The imports that mocks need; every method takes a context and answers with an instance. -/
def mockNeeds (emitter : Emitter) (services : List ServiceInfo) : Imports :=
  standard "context" :: services.flatMap fun info => info.operations.flatMap fun item =>
    signatureNeeds emitter.scope item.2 ++ emitter.scope.inputNeeds emitter.mocks item.2.output

/-- The imports that tests need, which call every operation with an instance. -/
def testNeeds (emitter : Emitter) (services : List ServiceInfo) : Imports :=
  standard "context" :: standard "testing" :: services.flatMap fun info =>
    info.operations.flatMap fun item => emitter.scope.inputNeeds emitter.mocks item.2.input

theorem builds_signature (operation : Operation) :
    Builds emitter plans (signatureNeeds emitter.scope operation)
      (signature · operation) := by
  refine (builds_emit (Scope.emits_ioType operation.input)).bind fun _ _ => ?_
  exact (builds_emit (Scope.emits_ioType operation.output)).done

theorem builds_errorType (id : ShapeId) :
    Builds emitter plans (emitter.scope.foreign id.nameSpace)
      (errorType · id) := by
  refine (builds_check _).then fun shape resolved => ?_
  have isSpace := Scope.mem_namespaces_of_lookup? (Model.resolveStructure_eq_ok resolved).1
  exact (builds_emit (Scope.emits_qualifyName isSpace _)).done

theorem builds_serviceBody (services : List ServiceInfo) :
    Builds emitter plans (serviceNeeds emitter.scope services)
      (serviceBody · services) := by
  have method (info : ServiceInfo) (item : Shape × Operation) :
      Builds emitter plans (signatureNeeds emitter.scope item.2 ++
        errorNeeds emitter.scope info item.2) (methodText · info item) := by
    refine (builds_signature item.2).bind fun _ _ => ?_
    exact (builds_each fun id _ => builds_errorType id).done
  have interface (info : ServiceInfo) :
      Builds emitter plans (info.operations.flatMap fun item =>
        signatureNeeds emitter.scope item.2 ++ errorNeeds emitter.scope info item.2)
        (interfaceItems · info) :=
    (builds_each fun item _ => method info item).done
  refine (builds_emit (Scope.emits_use (by decide))).bind fun _ _ => ?_
  exact (builds_each fun info _ => interface info).done

theorem builds_mockBody (services : List ServiceInfo) :
    Builds emitter plans (mockNeeds emitter services) (mockBody · services) := by
  have method (mock : String) (item : Shape × Operation) :
      Builds emitter plans (signatureNeeds emitter.scope item.2 ++
        emitter.scope.inputNeeds emitter.mocks item.2.output)
        (mockMethod · mock item) := by
    refine (builds_signature item.2).bind fun _ _ => ?_
    exact (builds_emit (Scope.emits_inputExpr rfl item.2.output)).done
  have ofService (info : ServiceInfo) :
      Builds emitter plans (info.operations.flatMap fun item =>
        signatureNeeds emitter.scope item.2 ++
          emitter.scope.inputNeeds emitter.mocks item.2.output) (mockItems · info) :=
    (builds_each fun item _ => method _ item).done
  refine (builds_emit (Scope.emits_use (by decide))).bind fun _ _ => ?_
  exact (builds_each fun info _ => ofService info).done

variable {package : String → String × String}

theorem emits_operationTests (same : mocks.model = scope.model) (service : Mock.TestedService)
    (operations : List (Shape × Operation)) :
    scope.Emits package (operations.flatMap fun item => scope.inputNeeds mocks item.2.input)
      (Mock.operationTests · mocks service operations) := by
  induction operations with
  | nil => exact adds_pure True.intro
  | cons item rest ih =>
    rw [List.flatMap_cons]
    refine (Scope.emits_inputExpr same item.2.input).bind fun _ _ => ?_
    exact ih.done

theorem emits_allServiceTests (same : mocks.model = scope.model)
    (services : List Mock.TestedService) :
    scope.Emits package (services.flatMap fun service => service.operations.flatMap fun item =>
        scope.inputNeeds mocks item.2.input) (Mock.allServiceTests · mocks services) := by
  induction services with
  | nil => exact adds_pure True.intro
  | cons service rest ih =>
    have ofService : scope.Emits package (service.operations.flatMap fun item =>
        scope.inputNeeds mocks item.2.input)
        (Mock.serviceTests · mocks service) :=
      (emits_operationTests same service service.operations).done
    rw [List.flatMap_cons]
    exact ofService.bind fun _ _ => ih.done

theorem emits_testItems (same : mocks.model = scope.model) (services : List Mock.TestedService) :
    scope.Emits package (standard "context" :: standard "testing" :: services.flatMap fun service =>
        service.operations.flatMap fun item => scope.inputNeeds mocks item.2.input)
      (Mock.testItems · mocks services) := by
  refine (Scope.emits_use (by decide)).bind fun _ _ => ?_
  refine (Scope.emits_use (by decide)).bind fun _ _ => ?_
  exact emits_allServiceTests same services

theorem builds_testBody (services : List ServiceInfo) :
    Builds emitter plans (testNeeds emitter services) (testBody · services) := by
  have tests : Builds emitter plans _ fun other =>
      Build.emit (Mock.testItems other.scope emitter.mocks _) :=
    builds_emit (emits_testItems rfl (services.map fun info =>
      { interface := info.name
        default := constructorName (mockName info.name) ++ "()"
        operations := info.operations }))
  rwa [List.flatMap_map] at tests

/-! ## Handlers -/

/-- The imports that a member of an input needs if it is bound to the URL. -/
def boundNeeds (scope : Scope) (labels : List String) (member : Member) : Imports :=
  if !member.traits.isLabel && member.traits.query?.isNone then []
  else if member.traits.isLabel && !labels.contains member.name then []
  else match scope.model.classifyMember member with
    | .error _ => []
    | .ok type => if isBindable type then scope.typeNeeds type else []

def paramNeeds (scope : Scope) (operation : Operation) (labels : List String) : Imports :=
  if operation.input.isUnit then []
  else match scope.model.resolveStructure operation.input with
    | .error _ => []
    | .ok input => input.members.flatMap (boundNeeds scope labels)

/-- The route that an operation is bound to, if it is bound to one. -/
def route? (item : Shape × Operation) : Option HttpBinding :=
  match item.1.traits.http? with
  | .error _ => none
  | .ok binding => binding

def routeNeeds (scope : Scope) (item : Shape × Operation) : Imports :=
  match route? item with
  | none => []
  | some binding => paramNeeds scope item.2 binding.labels

def routed (info : ServiceInfo) : List (Shape × Operation) :=
  info.operations.filter fun item => (route? item).isSome

/-- The imports that handlers need; the functions that they share use the standard library. -/
def httpNeeds (scope : Scope) (services : List ServiceInfo) : Imports :=
  services.flatMap (fun info => info.operations.flatMap (routeNeeds scope)) ++
    if services.all fun info => (routed info).isEmpty then []
    else httpImports.map standard ++ services.flatMap fun info =>
      (routed info).flatMap fun item => signatureNeeds scope item.2

theorem builds_memberParam (input : Shape) (labels : List String) (member : Member) :
    Builds emitter plans (boundNeeds emitter.scope labels member)
      (memberParam · input labels member) := by
  unfold boundNeeds memberParam
  by_cases free : !member.traits.isLabel && member.traits.query?.isNone
  · simp only [free, if_true]
    exact adds_pure True.intro
  · simp only [free, Bool.false_eq_true, if_false]
    by_cases unlisted : member.traits.isLabel && !labels.contains member.name
    · simp only [unlisted, if_true]
      exact (builds_issue input _ _).done
    · simp only [unlisted, Bool.false_eq_true, if_false]
      refine (builds_check _).then fun type classified => ?_
      have inScope : emitter.scope.model.classifyMember member = .ok type := classified
      rw [inScope]
      by_cases bindable : isBindable type
      · simp only [bindable, if_true]
        have typed := Model.classifyMember_eq_ok.mp classified
        exact (builds_emit (Scope.emits_typeExpr typed)).done
      · simp only [bindable]
        exact (builds_issue input _ _).done

theorem builds_warnLabels (shape : Shape) (problem : String) (labels : List String) :
    Builds emitter plans [] (warnLabels · shape problem labels) := by
  have issues : Builds emitter plans (labels.flatMap fun _ => [])
      fun emitter => Build.each (fun label =>
        emitter.shapeIssue shape ("URI label " ++ braced label ++ problem) .warning) labels :=
    (builds_each fun label _ => builds_issue shape _ _).imp fun _ _ => True.intro
  exact (issues.congr fun entry => by simp).done

theorem builds_httpParams (shape : Shape) (operation : Operation) (binding : HttpBinding) :
    Builds emitter plans (paramNeeds emitter.scope operation binding.labels)
      (httpParams · shape operation binding) := by
  unfold paramNeeds httpParams
  by_cases isUnit : operation.input.isUnit
  · simp only [isUnit, if_true]
    exact (builds_warnLabels shape _ _).done
  · simp only [isUnit, Bool.false_eq_true, if_false]
    refine (builds_check _).then fun input resolved => ?_
    have inScope : emitter.scope.model.resolveStructure operation.input = .ok input := resolved
    rw [inScope]
    refine (builds_each fun member _ => builds_memberParam input _ member).ends
      fun params _ => ?_
    exact (builds_warnLabels shape _ _).done

def HttpOperation.item (bound : HttpOperation) : Shape × Operation :=
  (bound.shape, bound.operation)

theorem builds_httpOperation (item : Shape × Operation) :
    BuildsTo (fun bound => bound.map HttpOperation.item =
        if (route? item).isSome then some item else none)
      emitter plans (routeNeeds emitter.scope item) (httpOperation · item) := by
  unfold routeNeeds httpOperation
  refine (builds_check _).then fun binding? decoded => ?_
  have isRoute : route? item = binding? := by
    rw [route?, decoded]
  rw [isRoute]
  cases binding? with
  | none => exact adds_pure rfl
  | some binding =>
    refine (builds_check _).then fun method _ => ?_
    exact (builds_httpParams item.1 item.2 binding).return fun params _ => rfl

theorem builds_httpOperations (info : ServiceInfo) :
    BuildsTo (fun bound => bound.map HttpOperation.item = routed info) emitter plans
      (info.operations.flatMap (routeNeeds emitter.scope)) (httpOperations · info) := by
  refine (builds_each fun item _ => builds_httpOperation item).return
    fun operations matched => ?_
  unfold routed
  generalize info.operations = items at matched ⊢
  induction matched with
  | nil => rfl
  | @cons item bound items bounds first _ ih =>
    by_cases isRouted : (route? item).isSome
    · rw [if_pos isRouted] at first
      obtain ⟨operation, rfl, same⟩ := Option.map_eq_some_iff.mp first
      rw [List.filter_cons, if_pos isRouted, ← ih, ← same]
      rfl
    · rw [if_neg isRouted, Option.map_eq_none_iff] at first
      rw [first, List.filter_cons, if_neg isRouted]
      exact ih

theorem builds_registrations (taken : List String) (operations : List HttpOperation) :
    Builds emitter plans [] (registrations · taken operations) := by
  induction operations generalizing taken with
  | nil => exact adds_pure True.intro
  | cons bound rest ih =>
    unfold registrations
    extract_lets pattern
    split
    · exact (builds_issue bound.shape _ _).then fun _ _ => ih taken
    · exact (ih (pattern :: taken)).done

theorem builds_handlerItems (info : ServiceInfo) (operations : List HttpOperation) :
    Builds emitter plans
      (operations.flatMap fun bound => signatureNeeds emitter.scope bound.item.2)
      (handlerItems · info operations) := by
  have ofOperation (handler : String) (bound : HttpOperation) :
      Builds emitter plans (signatureNeeds emitter.scope bound.item.2)
        (operationItems · handler bound) :=
    (builds_signature bound.operation).done
  refine (builds_registrations [] operations).then fun _ _ => ?_
  exact (builds_each fun bound _ => ofOperation _ bound).done

/-- Services without routes have no handlers, and need none. -/
theorem flatMap_handled {services : List ServiceInfo} {bound : List (List HttpOperation)}
    (matched : List.Forall₂ (fun info operations =>
      List.map HttpOperation.item operations = routed info) services bound)
    (needs : Shape × Operation → Imports) :
    ((services.zip bound).filter (!·.2.isEmpty)).flatMap
        (fun pair => pair.2.flatMap fun operation => needs operation.item) =
      services.flatMap fun info => (routed info).flatMap needs := by
  induction matched with
  | nil => rfl
  | @cons info operations _ _ first _ ih =>
    rw [List.zip_cons_cons, List.filter_cons, List.flatMap_cons, ← first, List.flatMap_map, ← ih]
    cases operations with
    | nil => rfl
    | cons operation rest => rfl

theorem all_isEmpty_bound {services : List ServiceInfo} {bound : List (List HttpOperation)}
    (matched : List.Forall₂ (fun info operations =>
      List.map HttpOperation.item operations = routed info) services bound) :
    bound.all (·.isEmpty) = services.all fun info => (routed info).isEmpty := by
  induction matched with
  | nil => rfl
  | cons first _ ih => rw [List.all_cons, List.all_cons, ih, ← first, List.isEmpty_map]

theorem builds_httpBody (services : List ServiceInfo) :
    Builds emitter plans (httpNeeds emitter.scope services)
      (httpBody · services) := by
  refine (builds_each fun info _ => builds_httpOperations info).bind
    fun bound matched => ?_
  rw [← all_isEmpty_bound matched]
  split
  · exact adds_pure True.intro
  · have isStandard : ∀ path ∈ httpImports, path ∈ standardPaths := by decide
    rw [← flatMap_handled matched fun item => signatureNeeds emitter.scope item.2,
      List.map_eq_flatMap]
    refine (builds_each fun path isPath => builds_emit (Scope.emits_use
      (isStandard path isPath))).bind fun _ _ => ?_
    exact (builds_each fun (pair : ServiceInfo × List HttpOperation) _ =>
      builds_handlerItems pair.1 pair.2).done

/-! ## Files -/

def CodeFile.needs (emitter : Emitter) (contents : Contents) : CodeFile → Imports
  | .types => contents.shapes.flatMap (shapeNeeds emitter.scope)
  | .service => ofServices (serviceNeeds emitter.scope)
  | .http => httpNeeds emitter.scope contents.services
  | .mock => ofServices (mockNeeds emitter)
  | .validators => []
  | .serviceTest => ofServices (testNeeds emitter)
where
  ofServices (needs : List ServiceInfo → Imports) : Imports :=
    if contents.services.isEmpty then [] else needs contents.services

theorem builds_ofServices {contents : Contents} {needs : List ServiceInfo → Imports}
    {step : Emitter → List ServiceInfo → Build (List Item)}
    (builds : Builds emitter plans (needs contents.services)
      (step · contents.services)) :
    Builds emitter plans (CodeFile.needs.ofServices contents needs)
      (CodeFile.items.ofServices · contents step) := by
  unfold CodeFile.needs.ofServices CodeFile.items.ofServices
  split
  · exact adds_pure True.intro
  · exact builds.done

theorem builds_items (contents : Contents) (file : CodeFile) :
    Builds emitter plans (file.needs emitter contents) (file.items · contents) := by
  cases file with
  | types => exact (builds_typesBody contents.shapes).done
  | service => exact builds_ofServices (builds_serviceBody contents.services)
  | http => exact builds_httpBody contents.services
  | mock => exact builds_ofServices (builds_mockBody contents.services)
  | validators =>
    simp only [CodeFile.needs, CodeFile.items]
    split
    · exact adds_pure True.intro
    · exact (builds_check _).done
  | serviceTest => exact builds_ofServices (builds_testBody contents.services)

theorem run_codeBody
    (emitter : Emitter) (contents : Contents) (file : CodeFile) (record : Recorded) :
    (codeBody emitter contents file).run record =
      match (file.items emitter contents).run { record with imports := [] } with
      | (.ok items, after) => (.ok { name := file.name, items, imports := after.imports }, after)
      | (.error fault, after) => (.error fault, after) := by
  rw [codeBody, run_bind]
  change (file.items emitter contents >>= _).run { record with imports := [] } = _
  rw [run_bind]
  cases (file.items emitter contents).run { record with imports := [] } with
  | mk outcome after => cases outcome <;> rfl

/-- The imports of a file are those that were recorded with its code. -/
theorem run_of_codeBody
    {contents : Contents} {file : CodeFile} {record : Recorded} {code : FileBody}
    (succeeded : ((codeBody emitter contents file).run record).1 = .ok code) :
    ∃ items after, (file.items emitter contents).run { record with imports := [] } =
        (.ok items, after) ∧
      code = { name := file.name, items, imports := after.imports } := by
  rw [run_codeBody] at succeeded
  cases ran : (file.items emitter contents).run { record with imports := [] } with
  | mk outcome after =>
    rw [ran] at succeeded
    cases outcome with
    | error fault => cases succeeded
    | ok items => exact ⟨items, after, rfl, (Except.ok.inj succeeded).symm⟩

/-- The imports of a file are among those that its code needs, and are all of them if the paths are
separate. -/
structure Needed
    (emitter : Emitter) (contents : Contents) (file : CodeFile) (code : FileBody) : Prop where
  name : code.name = file.name
  within : ∀ entry ∈ code.imports, emitter.scope.Known entry ∧ entry ∈ file.needs emitter contents
  whole : emitter.scope.Separate → ∀ entry ∈ file.needs emitter contents, entry ∈ code.imports

theorem ensures_needed (contents : Contents) (file : CodeFile) :
    Ensures (codeBody emitter contents file) (Needed emitter contents file) := by
  intro record code succeeded
  obtain ⟨items, after, ran, rfl⟩ := run_of_codeBody succeeded
  obtain ⟨-, known, within, whole, -⟩ := @builds_items emitter emitter.plans contents file
    { record with imports := [] } items nofun (by rw [ran])
  rw [ran] at known within whole
  refine ⟨rfl, fun entry isThere => ⟨known entry isThere, ?_⟩, fun separate entry isNeeded => ?_⟩
  · exact (within entry isThere).resolve_left List.not_mem_nil
  · exact whole separate entry (Or.inr isNeeded)

end Emitted

/-! A booth whose stand has a seat of another namespace.  Its route may be broken by a
declaration. -/

namespace Booth

def uri : Bool → String
  | false => "/open"
  | true => "/open\nvar Probe testing.TB\n//"

def payload : Bool → String
  | false => "\x7b\"method\":\"GET\",\"uri\":\"/open\"\x7d"
  | true => "\x7b\"method\":\"GET\",\"uri\":\"/open\\nvar Probe testing.TB\\n//\"\x7d"

variable (broken : Bool)

def seat : Shape where
  id := ⟨"ticket#Seat"⟩
  line := 1
  body := .simple .string

def stand : Shape where
  id := ⟨"booth#Stand"⟩
  line := 1
  body := .structure
    [{ name := "seat", container := ⟨"booth#Stand"⟩, target := ⟨"ticket#Seat"⟩, line := 1 }]

def openShape : Shape where
  id := ⟨"booth#Open"⟩
  line := 1
  traits := [⟨⟨"smithy.api#http"⟩, payload broken⟩]
  body := .operation {}

def service : Service where
  operations := [⟨"booth#Open"⟩]

def serviceShape : Shape where
  id := ⟨"booth#Booth"⟩
  line := 1
  body := .service service

def plan (space : String) : PackagePlan where
  space
  name := space
  shortName := space
  importPath := "generated/" ++ space
  dir := space

def emitter : Emitter where
  settings := {}
  model := { version := "2.0", shapes := [seat, stand, openShape broken, serviceShape] }
  plans := [plan "booth", plan "ticket"]
  plan := plan "booth"

def info : ServiceInfo where
  shape := serviceShape
  service
  name := "Booth"
  operations := [(openShape broken, {})]

def declared : Contents where
  services := [info broken]
  shapes := [stand]

def binding : HttpBinding where
  method := "GET"
  uri := uri broken

theorem http?_openShape : (openShape broken).traits.http? = .ok (some (binding broken)) := by
  apply eq_ok_of_toOption
  revert broken
  decide +kernel

theorem gives_routes :
    Gives (Build.each (httpOperations (emitter broken)) [info broken])
      [[{ shape := openShape broken, operation := {}, method := "GET",
          binding := binding broken, params := [] }]] := by
  intro record
  simp only [Build.each, httpOperations, info, httpOperation, http?_openShape]
  cases broken <;> rfl

theorem gives_contents : Gives (contents (emitter broken)) (declared broken) := by
  cases broken <;> exact gives_contents_single rfl rfl rfl rfl rfl rfl

theorem succeeds_items (file : CodeFile) :
    Succeeds (file.items (emitter broken) (declared broken)) := by
  cases file with
  | http =>
    cases broken with
    | false => exact ((gives_routes false).bind fun _ => rfl).succeeds
    | true => exact ((gives_routes true).bind fun _ => rfl).succeeds
  | _ => exact fun _ => ⟨_, rfl⟩

theorem emitted_package :
    ∃ package bodies, (emitPackage (emitter broken)).1 = .ok (package, bodies) :=
  exists_emitted (gives_contents broken) (succeeds_items broken)

theorem contents_eq {contents : Contents} (accepted : Accepted (emitter broken) contents) :
    contents = declared broken :=
  accepted.eq_of_gives (gives_contents broken)

end Booth

end ShapeForge.Emit
