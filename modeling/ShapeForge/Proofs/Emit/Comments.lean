import Mathlib.Data.List.DropRight
import ShapeForge.Proofs.Emit.Declared
import ShapeForge.Proofs.Model.Reachability

/-!
# The comments of a file

Comments quote what the model says: documentation, identifiers and routes.  Documentation is cut
into lines, and names have no line breaks.  So the comments of a package stay comments if no route
has a line break.
-/

namespace ShapeForge.Code

open Text (OneLine)

attribute [simp] Text.oneLine_append

/-- A comment without broken lines, or anything else. -/
@[simp]
def Item.Unbroken : Item → Prop
  | .comment lines => lines.Forall OneLine
  | _ => True

/-- No comment among the items has a broken line. -/
def Unbroken (items : List Item) : Prop :=
  ∀ item ∈ items, item.Unbroken

@[simp]
theorem unbroken_nil : Unbroken [] := by
  simp [Unbroken]

@[simp]
theorem unbroken_cons {item : Item} {rest : List Item} :
    Unbroken (item :: rest) ↔ item.Unbroken ∧ Unbroken rest := by
  simp [Unbroken]

@[simp]
theorem unbroken_append {first second : List Item} :
    Unbroken (first ++ second) ↔ Unbroken first ∧ Unbroken second := by
  simp [Unbroken, or_imp, forall_and]

theorem unbroken_flatMap {α : Type} {parts : List α} {items : α → List Item} :
    Unbroken (parts.flatMap items) ↔ ∀ part ∈ parts, Unbroken (items part) := by
  simp only [Unbroken, List.mem_flatMap]
  grind

theorem unbroken_flatten {files : List (List Item)} :
    Unbroken files.flatten ↔ ∀ file ∈ files, Unbroken file := by
  rw [List.flatten_eq_flatMap, unbroken_flatMap]
  rfl

/-- The lines of an unbroken comment are the lines that were written. -/
theorem Unbroken.lines {items : List Item} {written : List String} (unbroken : Unbroken items)
    (isComment : .comment written ∈ items) :
    Text.lines (Item.comment written).text = written.map ("//" ++ ·) ++ [""] :=
  lines_comment (List.forall_iff_forall_mem.mp (unbroken _ isComment))

end ShapeForge.Code

namespace ShapeForge.Emit

open Recording
open Code (Item Unbroken unbroken_flatMap unbroken_flatten)
open Text (OneLine oneLine_append)

section Steps

variable {α β : Type}

theorem ensures_emit {emission : Emission α} {property : α → Prop}
    (ensured : Ensures emission property) :
    Ensures (Build.emit emission) property := by
  intro recorded value succeeded
  exact ensured recorded.imports value succeeded

theorem ensures_each_mem {step : α → Build β} {property : β → Prop} {items : List α}
    (ofItem : ∀ item ∈ items, Ensures (step item) property) :
    Ensures (Build.each step items) fun results => ∀ result ∈ results, property result := by
  intro record results succeeded result isResult
  have matched := ensures_each ofItem record results succeeded
  rcases exists_partner matched.flip result isResult with ⟨item, -, holds⟩
  exact holds

end Steps

/-! ## Documentation -/

theorem oneLine_docLines (text : String) : ∀ line ∈ Naming.docLines text, OneLine line := by
  unfold Naming.docLines
  extract_lets trimmed
  intro line isLine
  split at isLine
  · cases isLine
  · rcases List.mem_map.mp isLine with ⟨whole, isWhole, rfl⟩
    exact (Text.oneLine_of_mem_lines isWhole).trim

theorem oneLine_spaced {line : String} (oneLine : OneLine line) : OneLine (Naming.spaced line) := by
  unfold Naming.spaced
  split
  · decide
  · exact OneLine.append (by decide) oneLine

theorem oneLine_docCommentLines {name : String} (oneLine : OneLine name) (text : String) :
    ∀ line ∈ Naming.docCommentLines text name, OneLine line := by
  have docLine := oneLine_docLines text
  unfold Naming.docCommentLines
  cases lines : Naming.docLines text with
  | nil => simp
  | cons first rest =>
    rw [lines, List.forall_mem_cons] at docLine
    rw [List.forall_mem_cons]
    constructor
    · exact (OneLine.append (by decide) oneLine).append (oneLine_spaced docLine.1)
    · intro line isLine
      rcases List.mem_map.mp isLine with ⟨whole, isWhole, rfl⟩
      exact oneLine_spaced (docLine.2 whole isWhole)

/-- What a line has behind a mark and the blank that may follow it. -/
def behind (mark line : String) : String :=
  String.ofList (match line.toList.drop mark.toList.length with
    | ' ' :: rest => rest
    | rest => rest)

/-- A shape whose identifier, and the name that is declared for it, stand on one line. -/
structure Lined (shape : Shape) : Prop where
  text : OneLine shape.id.text
  name : OneLine (Naming.declName shape.id)

theorem Lined.shapeDoc {shape : Shape} (lined : Lined shape) :
    (shapeDoc shape (Naming.declName shape.id)).Forall OneLine := by
  unfold Emit.shapeDoc
  extract_lets text
  split
  · simp only [lined.name, lined.text, List.Forall, oneLine_append, and_true]
    -- Only the fixed words of the line are left, here and wherever a comment is taken apart.
    and_intros <;> exact Text.oneLine_ofList rfl
  · rw [List.forall_iff_forall_mem]
    exact oneLine_docCommentLines lined.name text

/-! ## Types -/

section Emitted

variable {emitter : Emitter}
variable {info : ServiceInfo} {shape : Shape} {name : String} {services : List ServiceInfo}

theorem Lined.unbroken_typeItems (lined : Lined shape) (definition : String) :
    Unbroken (typeItems shape definition) := by
  simp [typeItems]
  exact lined.shapeDoc

theorem unbroken_patternConstant (oneLine : OneLine name) (pattern : String) :
    Unbroken (patternConstant name pattern) := by
  simp [patternConstant, patternName, oneLine]
  and_intros <;> exact Text.oneLine_ofList rfl

theorem unbroken_matcherItems (oneLine : OneLine name) : Unbroken (matcherItems name) := by
  simp [matcherItems, patternName, oneLine]
  and_intros <;> exact Text.oneLine_ofList rfl

theorem unbroken_errorItems (shape : Shape) (name : String) (message : Option Member) :
    Unbroken (errorItems shape name message) := by
  simp [errorItems]
  and_intros <;> exact Text.oneLine_ofList rfl

theorem Lined.unbroken_enumItems
    (lined : Lined shape) (numeric : Bool) (members : List EnumMember) :
    Unbroken (enumItems shape numeric members) := by
  have type := lined.unbroken_typeItems
  have constants : Unbroken (if members.isEmpty then []
      else [.blank, .consts (members.map (enumConstant shape numeric))]) := by
    split <;> simp
  simp only [enumItems, type, constants, Code.unbroken_append, true_and]
  simp [valuesName, lined.name]
  and_intros <;> exact Text.oneLine_ofList rfl

theorem ensures_unbroken_patternItems
    (oneLine : OneLine name) (shape : Shape) (kind : SimpleKind) (pattern : String) :
    Ensures (patternItems emitter shape kind name pattern) Unbroken := by
  have constant := unbroken_patternConstant oneLine pattern
  unfold patternItems
  apply Ensures.ite
  · exact ensures_bind fun _ => ensures_pure Code.unbroken_nil
  · split
    · exact ensures_bind fun _ => ensures_pure constant
    · refine ensures_bind fun _ => ensures_pure ?_
      exact Code.unbroken_append.mpr ⟨constant, unbroken_matcherItems oneLine⟩

theorem Lined.ensures_unbroken_simpleItems (lined : Lined shape) (kind : SimpleKind) :
    Ensures (simpleItems emitter shape kind) Unbroken := by
  have type := lined.unbroken_typeItems
  unfold simpleItems
  split
  · exact ensures_throw _ _
  · refine Ensures.after_if ?_
    cases shape.traits.pattern? with
    | none => exact ensures_pure (type _)
    | some pattern =>
      refine (ensures_unbroken_patternItems lined.name shape kind pattern).bind
        fun declared unbroken => ?_
      exact ensures_pure (Code.unbroken_append.mpr ⟨type _, unbroken⟩)

theorem Lined.ensures_unbroken_shapeItems (lined : Lined shape) :
    Ensures (shapeItems emitter shape) Unbroken := by
  have type := lined.unbroken_typeItems
  unfold shapeItems
  cases shape.body with
  | simple kind => exact lined.ensures_unbroken_simpleItems kind
  | enumeration numeric members => exact ensures_pure (lined.unbroken_enumItems numeric members)
  | list item =>
    refine ensures_bind fun classified => ?_
    refine ensures_bind fun element => ?_
    exact ensures_pure (type _)
  | map key value =>
    refine ensures_bind fun keyType => ?_
    refine ensures_bind fun valueType => ?_
    refine ensures_bind fun keyExpr => ?_
    refine ensures_bind fun valueExpr => ?_
    exact ensures_pure (type _)
  | «structure» members =>
    refine ensures_bind fun fields => ?_
    apply ensures_pure
    rw [Code.unbroken_append]
    refine ⟨type _, ?_⟩
    split
    · exact unbroken_errorItems _ _ _
    · exact Code.unbroken_nil
  | operation _ | resource _ | service _ => exact ensures_pure Code.unbroken_nil

theorem ensures_unbroken_typesBody {shapes : List Shape} (lined : ∀ shape ∈ shapes, Lined shape) :
    Ensures (typesBody emitter shapes) Unbroken := by
  have unit : Unbroken unitItems := by
    simp [unitItems]
    and_intros <;> exact Text.oneLine_ofList rfl
  refine (ensures_each_mem fun shape isShape =>
    (lined shape isShape).ensures_unbroken_shapeItems).bind fun declared unbroken => ?_
  apply ensures_pure
  rw [Code.unbroken_append, unbroken_flatMap]
  refine ⟨unit, fun items isPart => ?_⟩
  exact Code.unbroken_cons.mpr ⟨True.intro, unbroken items isPart⟩

/-! ## Interfaces and mocks -/

/-- The structures of the model and the packages of namespaces have names on one line. -/
structure LinedScope (scope : Scope) : Prop where
  structures : ∀ id shape, scope.model.resolveStructure id = .ok shape →
    OneLine (Naming.declName id)
  packages : ∀ space, OneLine (scope.package space).1

theorem LinedScope.ensures_ioType {scope : Scope} (lined : LinedScope scope) (id : ShapeId) :
    Ensures (scope.ioType id) OneLine := by
  unfold Scope.ioType
  apply Ensures.ite
  · exact ensures_pure (by decide)
  · have resolved : Ensures (Emission.liftFault (scope.model.resolveStructure id)) fun shape =>
        scope.model.resolveStructure id = .ok shape :=
      fun _ _ succeeded => succeeded
    refine resolved.bind fun shape resolved => ?_
    have name := lined.structures id shape resolved
    apply Ensures.ite
    · exact ensures_pure name
    · refine ensures_bind fun _ => ensures_pure ?_
      exact ((lined.packages _).append (by decide)).append name

theorem ensures_signature (lined : LinedScope emitter.scope) (operation : Operation) :
    Ensures (signature emitter operation) fun types => OneLine types.2 := by
  refine ensures_bind fun input => ?_
  refine (ensures_emit (lined.ensures_ioType operation.output)).bind fun output oneLine => ?_
  exact ensures_pure oneLine

/-- A service whose name and operations have names on one line. -/
structure LinedService (info : ServiceInfo) : Prop where
  shape : Lined info.shape
  name : info.name = Naming.declName info.shape.id
  operations : ∀ item ∈ info.operations, OneLine (Naming.declName item.1.id)

theorem LinedService.oneLine_name (lined : LinedService info) : OneLine info.name := by
  rw [lined.name]
  exact lined.shape.name

theorem LinedService.ensures_unbroken_interfaceItems (lined : LinedService info) :
    Ensures (interfaceItems emitter info) Unbroken := by
  refine ensures_bind fun methods => ?_
  apply ensures_pure
  have doc := lined.shape.shapeDoc
  rw [← lined.name] at doc
  rw [Code.unbroken_append]
  constructor
  · split
    · exact Code.unbroken_nil
    · simp [versionName, lined.oneLine_name]
      and_intros <;> exact Text.oneLine_ofList rfl
  · simp
    exact doc

theorem ensures_unbroken_serviceBody (lined : ∀ info ∈ services, LinedService info) :
    Ensures (serviceBody emitter services) Unbroken := by
  refine ensures_bind fun _ => ?_
  refine (ensures_each_mem fun info isService =>
    (lined info isService).ensures_unbroken_interfaceItems).bind fun declared unbroken => ?_
  exact ensures_pure (unbroken_flatten.mpr unbroken)

theorem ensures_unbroken_mockMethod {item : Shape × Operation} (scope : LinedScope emitter.scope)
    (oneLine : OneLine (Naming.declName item.1.id)) (mock : String) :
    Ensures (mockMethod emitter mock item) Unbroken := by
  -- The comment names the output, which may be declared in the package of another namespace.
  refine (ensures_signature scope item.2).bind fun types output => ?_
  refine ensures_bind fun expr => ?_
  apply ensures_pure
  simp [oneLine, output]
  and_intros <;> exact Text.oneLine_ofList rfl

theorem LinedService.ensures_unbroken_mockItems (lined : LinedService info)
    (scope : LinedScope emitter.scope) :
    Ensures (mockItems emitter info) Unbroken := by
  have name := lined.oneLine_name
  refine (ensures_each_mem fun item isOperation =>
    ensures_unbroken_mockMethod scope (lined.operations item isOperation) _).bind
      fun methods unbroken => ?_
  apply ensures_pure
  simp [mockName, constructorName, unbroken_flatten.mpr unbroken, name]
  and_intros <;> exact Text.oneLine_ofList rfl

theorem ensures_unbroken_mockBody (lined : ∀ info ∈ services, LinedService info)
    (scope : LinedScope emitter.scope) :
    Ensures (mockBody emitter services) Unbroken := by
  have helper : Unbroken pointerItems := by
    simp [pointerItems]
    and_intros <;> exact Text.oneLine_ofList rfl
  refine ensures_bind fun _ => ?_
  refine (ensures_each_mem fun info isService =>
    (lined info isService).ensures_unbroken_mockItems scope).bind fun declared unbroken => ?_
  exact ensures_pure (Code.unbroken_append.mpr ⟨unbroken_flatten.mpr unbroken, helper⟩)

/-! ## Handlers -/

/-- The routes of a service have no line breaks. -/
def UnbrokenRoutes (info : ServiceInfo) : Prop :=
  ∀ item ∈ info.operations, ∀ binding,
    item.1.traits.http? = .ok (some binding) → OneLine binding.uri

/-- What the comment of a handler's method is made of stands on one line. -/
def LinedRoute (bound : HttpOperation) : Prop :=
  OneLine (Naming.declName bound.shape.id) ∧ OneLine bound.method ∧ OneLine bound.binding.uri

theorem oneLine_normalizeMethod {id : ShapeId} {method : String}
    (normalized : Route.normalizeMethod id method = .ok name) :
    OneLine name := by
  have known : ∀ name ∈ Route.methods, OneLine name := by decide
  unfold Route.normalizeMethod at normalized
  extract_lets upper at normalized
  clear_value upper
  split at normalized
  · rename_i isMethod
    cases normalized
    exact known _ (List.contains_iff_mem.mp isMethod)
  · cases normalized

theorem ensures_linedRoute {item : Shape × Operation}
    (oneLine : OneLine (Naming.declName item.1.id))
    (unbroken : ∀ binding, item.1.traits.http? = .ok (some binding) → OneLine binding.uri) :
    Ensures (httpOperation emitter item) fun bound => ∀ route ∈ bound, LinedRoute route := by
  unfold httpOperation
  refine (ensures_check _).bind fun binding? decoded => ?_
  cases binding? with
  | none => exact ensures_pure (by simp)
  | some binding =>
    refine (ensures_check _).bind fun method normalized => ?_
    refine ensures_bind fun params => ?_
    apply ensures_pure
    rintro _ ⟨⟩
    exact ⟨oneLine, oneLine_normalizeMethod normalized, unbroken binding decoded⟩

theorem LinedService.ensures_linedRoutes (lined : LinedService info)
    (unbroken : UnbrokenRoutes info) :
    Ensures (httpOperations emitter info) fun bound => ∀ route ∈ bound, LinedRoute route := by
  refine (ensures_each_mem fun item isOperation =>
    ensures_linedRoute (lined.operations item isOperation) (unbroken item isOperation)).bind
      fun operations linedRoutes => ?_
  apply ensures_pure
  intro route isRoute
  rcases List.mem_filterMap.mp isRoute with ⟨bound, isBound, same⟩
  exact linedRoutes bound isBound route same

theorem LinedRoute.ensures_unbroken_operationItems {bound : HttpOperation}
    (lined : LinedRoute bound) (handler : String) :
    Ensures (operationItems emitter handler bound) Unbroken := by
  rcases lined with ⟨name, method, uri⟩
  refine ensures_bind fun types => ?_
  apply ensures_pure
  simp [routeItems, handlerMethod, name, method, uri]
  and_intros <;> exact Text.oneLine_ofList rfl

theorem LinedService.ensures_unbroken_handlerItems {operations : List HttpOperation}
    (lined : LinedService info) (routes : ∀ route ∈ operations, LinedRoute route) :
    Ensures (handlerItems emitter info operations) Unbroken := by
  have name := lined.oneLine_name
  refine ensures_bind fun registered => ?_
  refine (ensures_each_mem fun route isRoute =>
    (routes route isRoute).ensures_unbroken_operationItems _).bind fun methods unbroken => ?_
  apply ensures_pure
  simp [handlerName, constructorName, unbroken_flatten.mpr unbroken, name]
  and_intros <;> exact Text.oneLine_ofList rfl

theorem ensures_unbroken_httpBody (lined : ∀ info ∈ services, LinedService info)
    (unbroken : ∀ info ∈ services, UnbrokenRoutes info) :
    Ensures (httpBody emitter services) fun items => Unbroken (items.getD []) := by
  have helpers : Unbroken httpHelpers := by
    simp only [httpHelpers, Code.unbroken_cons, Code.unbroken_nil, Item.Unbroken, List.Forall,
      true_and, and_true]
    and_intros <;> exact Text.oneLine_ofList rfl
  unfold httpBody
  refine (ensures_each_mem fun info isService =>
    (lined info isService).ensures_linedRoutes (unbroken info isService)).bind
      fun bound routes => ?_
  apply Ensures.ite
  · exact ensures_pure Code.unbroken_nil
  · refine ensures_bind fun _ => ?_
    -- Handlers are written for the services with routes, each beside its own routes.
    have ofRouted (routed : ServiceInfo × List HttpOperation)
        (isRouted : routed ∈ (services.zip bound).filter (!·.2.isEmpty)) :
        Ensures (handlerItems emitter routed.1 routed.2) Unbroken := by
      rcases List.of_mem_zip (List.mem_filter.mp isRouted).1 with ⟨isService, isBound⟩
      exact (lined _ isService).ensures_unbroken_handlerItems (routes _ isBound)
    refine (ensures_each_mem ofRouted).bind fun handlers unbroken => ?_
    exact ensures_pure (Code.unbroken_append.mpr ⟨unbroken_flatten.mpr unbroken, helpers⟩)

/-! ## Validators -/

theorem oneLine_type_of_methods
    {model : Model} {shapes : List Shape} {methods : List Validation.Method}
    (lined : ∀ shape ∈ shapes, Lined shape)
    (declared : Validation.methods model shapes = .ok methods) :
    ∀ method ∈ methods, OneLine method.type := by
  induction shapes generalizing methods with
  | nil =>
    cases declared
    simp
  | cons shape rest ih =>
    rcases List.forall_mem_cons.mp lined with ⟨first, others⟩
    rcases bind_eq_ok.mp declared with ⟨method, isMethod, declared⟩
    rcases bind_eq_ok.mp declared with ⟨methods, areMethods, declared⟩
    rcases bind_eq_ok.mp isMethod with ⟨checks, -, isMethod⟩
    cases declared
    have type : method.type = Naming.declName shape.id := by
      rw [← Except.ok.inj isMethod]
    refine List.forall_mem_cons.mpr ⟨?_, ih others areMethods⟩
    rw [type]
    exact first.name

theorem unbroken_validatorItems {methods : List Validation.Method}
    (oneLine : ∀ method ∈ methods, OneLine method.type) :
    Unbroken (Validation.validatorItems methods) := by
  have error : Unbroken Validation.requiredErrorItems := by
    -- Literals that are kept apart are checked much faster than a joined one.
    simp [-String.reduceAppend, Validation.requiredErrorItems]
    and_intros <;> exact Text.oneLine_ofList rfl
  rw [Validation.validatorItems, Code.unbroken_append, unbroken_flatMap]
  refine ⟨error, fun method isMethod => ?_⟩
  simp [Validation.Method.items, oneLine method isMethod]
  and_intros <;> exact Text.oneLine_ofList rfl

/-! ## Files -/

/-- All names that the files of a package quote stand on one line. -/
structure LinedContents (emitter : Emitter) (contents : Contents) : Prop where
  scope : LinedScope emitter.scope
  shapes : ∀ shape ∈ contents.shapes, Lined shape
  services : ∀ info ∈ contents.services, LinedService info

theorem ensures_unbroken_ofServices
    {contents : Contents} {step : Emitter → List ServiceInfo → Build (List Item)}
    (unbroken : Ensures (step emitter contents.services) Unbroken) :
    Ensures (CodeFile.items.ofServices emitter contents step) fun items =>
      Unbroken (items.getD []) := by
  unfold CodeFile.items.ofServices
  apply Ensures.ite
  · exact ensures_pure Code.unbroken_nil
  · exact unbroken.bind fun items unbroken => ensures_pure unbroken

theorem LinedContents.ensures_unbroken_items {contents : Contents} {file : CodeFile}
    (lined : LinedContents emitter contents) (noTest : file ≠ .serviceTest)
    (routes : ∀ info ∈ contents.services, UnbrokenRoutes info) :
    Ensures (file.items emitter contents) fun items => Unbroken (items.getD []) := by
  cases file with
  | types =>
    exact (ensures_unbroken_typesBody lined.shapes).bind fun items unbroken =>
      ensures_pure unbroken
  | service => exact ensures_unbroken_ofServices (ensures_unbroken_serviceBody lined.services)
  | http => exact ensures_unbroken_httpBody lined.services routes
  | mock =>
    exact ensures_unbroken_ofServices (ensures_unbroken_mockBody lined.services lined.scope)
  | validators =>
    rw [CodeFile.items]
    apply Ensures.ite
    · exact ensures_pure Code.unbroken_nil
    · refine (ensures_check _).bind fun methods declared => ?_
      have structures : ∀ shape ∈ contents.structures, Lined shape := by
        intro shape isStructure
        exact lined.shapes shape (List.mem_filter.mp isStructure).1
      exact ensures_pure (unbroken_validatorItems (oneLine_type_of_methods structures declared))
  | serviceTest => exact absurd rfl noTest

end Emitted

end ShapeForge.Emit
