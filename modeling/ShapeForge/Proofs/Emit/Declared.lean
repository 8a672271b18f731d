import Mathlib.Data.List.Forall2
import ShapeForge.Emit.Package
import ShapeForge.Proofs.Naming.Exported
import ShapeForge.Proofs.Recording

/-!
# The exported names of a file

Each file of a package is written under conditions of its own.  `fileNames` says which names a file
exports, in terms of what the package contains, and `ensures_items` that its code exports them.
-/

namespace ShapeForge.Code

@[simp]
theorem exported_nil : exported [] = [] :=
  rfl

@[simp]
theorem exported_cons (item : Item) (rest : List Item) :
    exported (item :: rest) = item.names.filter isExported ++ exported rest := by
  simp [exported]

@[simp]
theorem exported_append (first second : List Item) :
    exported (first ++ second) = exported first ++ exported second := by
  simp [exported]

theorem exported_flatMap {α : Type} (parts : List α) (items : α → List Item) :
    exported (parts.flatMap items) = parts.flatMap fun part => exported (items part) := by
  induction parts with
  | nil => rfl
  | cons first rest ih => rw [List.flatMap_cons, exported_append, ih, List.flatMap_cons]

/-- Files one after another export what each of them exports. -/
theorem exported_flatten
    {α : Type} {parts : List α} {names : α → List String} {files : List (List Item)}
    (matched : List.Forall₂ (fun part file => exported file = names part) parts files) :
    exported files.flatten = parts.flatMap names := by
  induction matched with
  | nil => rfl
  | cons first _ ih => rw [List.flatten_cons, exported_append, first, ih, List.flatMap_cons]

end ShapeForge.Code

namespace ShapeForge.Emit

open Recording
open Code (Item exported isExported exported_flatMap exported_flatten)
open Naming (StartsCapital)

/-! ## Steps of building -/

section Steps

variable {α β : Type}

theorem ensures_check (outcome : Except Fault α) :
    Ensures (Build.check outcome) fun value => outcome = .ok value :=
  fun _ _ succeeded => succeeded

theorem ensures_each {step : α → Build β} {property : α → β → Prop} {items : List α}
    (ofItem : ∀ item ∈ items, Ensures (step item) (property item)) :
    Ensures (Build.each step items) (List.Forall₂ property items) := by
  induction items with
  | nil => exact ensures_pure .nil
  | cons item rest ih =>
    rcases List.forall_mem_cons.mp ofItem with ⟨ofFirst, ofRest⟩
    refine ofFirst.bind fun first isFirst => ?_
    refine (ih ofRest).bind fun others areOthers => ?_
    exact ensures_pure (.cons isFirst areOthers)

theorem gives_each {step : α → Build β} {first : α} {rest : List α} {value : β} {values : List β}
    (ofFirst : Gives (step first) value) (ofRest : Gives (Build.each step rest) values) :
    Gives (Build.each step (first :: rest)) (value :: values) := by
  rw [Build.each]
  exact ofFirst.bind (ofRest.bind (gives_pure _))

theorem succeeds_each {step : α → Build β} (ofItem : ∀ item, Succeeds (step item)) :
    ∀ items : List α, Succeeds (Build.each step items)
  | [] => fun _ => ⟨_, rfl⟩
  | item :: rest => by
    refine (ofItem item).bind (Ensures.trivial _) fun first _ => ?_
    refine (succeeds_each ofItem rest).bind (Ensures.trivial _) fun others _ => ?_
    exact fun _ => ⟨_, rfl⟩

end Steps

section Emitted

variable {emitter : Emitter}

/-! ## Types -/

/-- The exported names that are declared for a data shape. -/
def typeNames (shape : Shape) : List String :=
  let name := Naming.declName shape.id
  name :: match shape.body with
    | .simple kind =>
      if (kind == .string || kind == .document) && shape.traits.pattern?.isSome then
        [name ++ "Pattern"]
      else []
    | .enumeration _ members =>
      members.map (fun member => Naming.enumConstName shape.id member.name) ++
        [name ++ "Values"]
    | _ => []

variable {shape : Shape} {services : List ServiceInfo}

theorem exported_typeItems
    (capital : StartsCapital (Naming.declName shape.id)) (definition : String) :
    exported (typeItems shape definition) = [Naming.declName shape.id] := by
  simp [typeItems, Item.names, capital.isExported]

theorem exported_patternConstant {name : String} (capital : StartsCapital name) (pattern : String) :
    exported (patternConstant name pattern) = [name ++ "Pattern"] := by
  simp [patternConstant, patternName, Item.names, (capital.append "Pattern").isExported]

theorem exported_matcherItems {name : String} (capital : StartsCapital name) :
    exported (matcherItems name) = [] := by
  simp [matcherItems, matcherName, Item.names, Naming.not_isExported_camel capital]

theorem exported_errorItems (shape : Shape) (name : String) (message : Option Member) :
    exported (errorItems shape name message) = [] := by
  simp [errorItems, Item.names]

theorem exported_enumConstants (capital : StartsCapital (Naming.declName shape.id)) (numeric : Bool)
    (members : List EnumMember) :
    exported [.consts (members.map (enumConstant shape numeric))] =
      members.map fun member => Naming.enumConstName shape.id member.name := by
  have names : (members.map (enumConstant shape numeric)).map (·.name) =
      members.map fun member => Naming.enumConstName shape.id member.name := by
    simp [enumConstant]
  rw [Code.exported_cons, Item.names, names, Code.exported_nil, List.append_nil,
    List.filter_eq_self]
  intro name isName
  rcases List.mem_map.mp isName with ⟨member, -, rfl⟩
  exact (capital.append _).isExported

theorem exported_enumItems (capital : StartsCapital (Naming.declName shape.id)) (numeric : Bool)
    (members : List EnumMember) :
    exported (enumItems shape numeric members) =
      Naming.declName shape.id ::
        (members.map (fun member => Naming.enumConstName shape.id member.name) ++
          [Naming.declName shape.id ++ "Values"]) := by
  have values := (capital.append "Values").isExported
  cases members with
  | nil => simp [enumItems, exported_typeItems capital, valuesName, Item.names, values]
  | cons first rest =>
    rw [← exported_enumConstants capital numeric]
    simp [enumItems, exported_typeItems capital, valuesName, Item.names, values]

theorem ensures_patternItems {name : String}
    (capital : StartsCapital name) (shape : Shape) (kind : SimpleKind) (pattern : String) :
    Ensures (patternItems emitter shape kind name pattern) fun items =>
      exported items =
        if kind == .string || kind == .document then [name ++ "Pattern"] else [] := by
  have constant := exported_patternConstant capital pattern
  unfold patternItems
  have condition : (kind != .string && kind != .document) =
      !(kind == .string || kind == .document) := by
    grind
  cases isText : kind == .string || kind == .document with
  | false =>
    simp only [condition, isText, Bool.not_false, if_true]
    refine ensures_bind fun _ => ?_
    exact ensures_pure (by simp)
  | true =>
    simp only [condition, isText, Bool.not_true, Bool.false_eq_true, if_false, if_true]
    split
    · refine ensures_bind fun _ => ?_
      exact ensures_pure constant
    · refine ensures_bind fun _ => ?_
      exact ensures_pure (by simp [constant, exported_matcherItems capital])

theorem ensures_simpleItems
    (capital : StartsCapital (Naming.declName shape.id)) (kind : SimpleKind) :
    Ensures (simpleItems emitter shape kind) fun items =>
      exported items = Naming.declName shape.id ::
        if (kind == .string || kind == .document) && shape.traits.pattern?.isSome then
          [Naming.declName shape.id ++ "Pattern"]
        else [] := by
  unfold simpleItems
  split
  · exact ensures_throw _ _
  · refine Ensures.after_if ?_
    cases shape.traits.pattern? with
    | none => exact ensures_pure (by simp [exported_typeItems capital])
    | some pattern =>
      refine (ensures_patternItems capital shape kind pattern).bind fun declared names => ?_
      exact ensures_pure (by simp [exported_typeItems capital, names])

theorem ensures_shapeItems (capital : StartsCapital (Naming.declName shape.id))
    (data : isData shape = true) :
    Ensures (shapeItems emitter shape) fun items => exported items = typeNames shape := by
  have typeOnly (definition : String) := exported_typeItems capital definition
  unfold shapeItems typeNames
  cases body : shape.body with
  | simple kind => exact ensures_simpleItems capital kind
  | enumeration numeric members => exact ensures_pure (exported_enumItems capital numeric members)
  | list item =>
    refine ensures_bind fun type => ?_
    refine ensures_bind fun element => ?_
    exact ensures_pure (typeOnly _)
  | map key value =>
    refine ensures_bind fun keyType => ?_
    refine ensures_bind fun valueType => ?_
    refine ensures_bind fun keyExpr => ?_
    refine ensures_bind fun valueExpr => ?_
    exact ensures_pure (typeOnly _)
  | «structure» members =>
    refine ensures_bind fun fields => ?_
    apply ensures_pure
    rw [Code.exported_append, typeOnly]
    split
    · rw [exported_errorItems]
      rfl
    · rfl
  | operation _ | resource _ | service _ =>
    simp [isData, Shape.kind, ShapeBody.kind, body] at data

theorem ensures_typesBody {shapes : List Shape}
    (capital : ∀ shape ∈ shapes, StartsCapital (Naming.declName shape.id))
    (data : ∀ shape ∈ shapes, isData shape = true) :
    Ensures (typesBody emitter shapes) fun items =>
      exported items = Naming.unitType :: shapes.flatMap typeNames := by
  have unit : exported unitItems = [Naming.unitType] := by decide
  unfold typesBody
  refine (ensures_each fun shape isShape =>
    ensures_shapeItems (capital shape isShape) (data shape isShape)).bind fun declared names => ?_
  apply ensures_pure
  have separated : exported (declared.flatMap (.blank :: ·)) = exported declared.flatten := by
    rw [List.flatten_eq_flatMap, exported_flatMap, exported_flatMap]
    simp [Item.names]
  rw [Code.exported_append, unit, separated, exported_flatten names]
  rfl

/-! ## Interfaces, mocks and handlers -/

def interfaceNames (info : ServiceInfo) : List String :=
  (if info.service.version.isEmpty then [] else [info.name ++ "Version"]) ++ [info.name]

def mockNames (info : ServiceInfo) : List String :=
  ["Mock" ++ info.name, "NewMock" ++ info.name]

def handlerNames (info : ServiceInfo) : List String :=
  if info.hasRoutes then [info.name ++ "HTTPHandler", "New" ++ info.name ++ "HTTPHandler"] else []

theorem ensures_interfaceItems {info : ServiceInfo} (capital : StartsCapital info.name) :
    Ensures (interfaceItems emitter info) fun items => exported items = interfaceNames info := by
  unfold interfaceItems interfaceNames
  refine ensures_bind fun methods => ?_
  apply ensures_pure
  have version := (capital.append "Version").isExported
  split
  · simp [Item.names, capital.isExported]
  · simp [Item.names, versionName, capital.isExported, version]

theorem ensures_serviceBody (capital : ∀ info ∈ services, StartsCapital info.name) :
    Ensures (serviceBody emitter services) fun items =>
      exported items = services.flatMap interfaceNames := by
  refine ensures_bind fun _ => ?_
  refine (ensures_each fun info isService => ensures_interfaceItems (capital info isService)).bind
    fun declared names => ?_
  exact ensures_pure (exported_flatten names)

/-- Parts that export nothing export nothing together. -/
theorem ensures_methods {α : Type} {step : α → Build (List Item)}
    (silent : ∀ item, Ensures (step item) fun methods => exported methods = []) (items : List α) :
    Ensures (Build.each step items) fun methods => exported methods.flatten = [] := by
  intro record methods succeeded
  have matched : List.Forall₂ (fun _ part => exported part = []) items methods :=
    ensures_each (fun item _ => silent item) record methods succeeded
  rw [exported_flatten matched]
  simp

theorem ensures_mockMethod (mock : String) (item : Shape × Operation) :
    Ensures (mockMethod emitter mock item) fun items => exported items = [] := by
  refine ensures_bind fun _ => ?_
  refine ensures_bind fun _ => ?_
  exact ensures_pure (by simp [Item.names])

theorem constructorName_mockName (name : String) :
    constructorName (mockName name) = "NewMock" ++ name := by
  rw [constructorName, mockName, ← String.append_assoc]
  rfl

theorem constructorName_handlerName (name : String) :
    constructorName (handlerName name) = "New" ++ name ++ "HTTPHandler" := by
  rw [constructorName, handlerName, String.append_assoc]

theorem ensures_mockItems (info : ServiceInfo) :
    Ensures (mockItems emitter info) fun items => exported items = mockNames info := by
  have mock : StartsCapital (mockName info.name) :=
    StartsCapital.append ⟨'M', _, rfl, rfl⟩ info.name
  have constructor : StartsCapital (constructorName (mockName info.name)) :=
    StartsCapital.append ⟨'N', _, rfl, rfl⟩ (mockName info.name)
  have blankName : isExported "_" = false := by decide
  have names : mockNames info = [mockName info.name, constructorName (mockName info.name)] := by
    rw [constructorName_mockName]
    rfl
  unfold mockItems
  refine (ensures_methods (ensures_mockMethod (mockName info.name)) info.operations).bind
    fun methods silent => ?_
  apply ensures_pure
  simp [names, Item.names, silent, mock.isExported, constructor.isExported, blankName]

theorem ensures_mockBody (services : List ServiceInfo) :
    Ensures (mockBody emitter services) fun items =>
      exported items = services.flatMap mockNames := by
  have helper : exported pointerItems = [] := by decide
  refine ensures_bind fun _ => ?_
  refine (ensures_each fun info _ => ensures_mockItems info).bind fun declared names => ?_
  exact ensures_pure (by rw [Code.exported_append, exported_flatten names, helper, List.append_nil])

/-! ## Handlers -/

theorem http?_eq_ok {traits : Traits} {binding? : Option HttpBinding}
    (decoded : traits.http? = .ok binding?) :
    binding?.isSome = traits.has Trait.http := by
  unfold Traits.http? at decoded
  unfold Traits.has
  split at decoded
  · rename_i absent
    cases decoded
    rw [absent]
    rfl
  · rename_i found
    rw [found]
    split at decoded
    · cases decoded
      rfl
    · cases decoded

/-- An operation gets a route if it has the trait for one. -/
theorem ensures_httpOperation (item : Shape × Operation) :
    Ensures (httpOperation emitter item) fun bound =>
      bound.isSome = item.1.traits.has Trait.http := by
  unfold httpOperation
  refine (ensures_check _).bind fun binding? decoded => ?_
  rw [← http?_eq_ok decoded]
  cases binding? with
  | none => exact ensures_pure rfl
  | some binding =>
    refine ensures_bind fun method => ?_
    refine ensures_bind fun params => ?_
    exact ensures_pure rfl

theorem ensures_httpOperations (info : ServiceInfo) :
    Ensures (httpOperations emitter info) fun bound => bound.isEmpty = !info.hasRoutes := by
  refine (ensures_each fun item _ => ensures_httpOperation item).bind fun operations matched => ?_
  apply ensures_pure
  change _ = !(info.operations.any fun item => item.1.traits.has Trait.http)
  generalize info.operations = listed at matched
  induction matched with
  | nil => rfl
  | @cons item bound _ _ first _ ih =>
    rw [List.any_cons, ← first]
    cases bound with
    | none => simpa using ih
    | some _ => rfl

theorem ensures_operationItems (handler : String) (bound : HttpOperation) :
    Ensures (operationItems emitter handler bound) fun items => exported items = [] := by
  refine ensures_bind fun _ => ?_
  exact ensures_pure (by simp [routeItems, handlerMethod, Item.names])

def handlerPair (info : ServiceInfo) : List String :=
  [handlerName info.name, constructorName (handlerName info.name)]

theorem ensures_handlerItems {info : ServiceInfo}
    (capital : StartsCapital info.name) (operations : List HttpOperation) :
    Ensures (handlerItems emitter info operations) fun items =>
      exported items = handlerPair info := by
  have handler : StartsCapital (handlerName info.name) := capital.append "HTTPHandler"
  have constructor : StartsCapital (constructorName (handlerName info.name)) :=
    StartsCapital.append ⟨'N', _, rfl, rfl⟩ (handlerName info.name)
  unfold handlerItems
  refine ensures_bind fun routes => ?_
  refine (ensures_methods (ensures_operationItems (handlerName info.name)) operations).bind
    fun methods silent => ?_
  apply ensures_pure
  simp [handlerPair, Item.names, silent, handler.isExported, constructor.isExported]

/-- Handlers are written for the services that have routes. -/
theorem flatMap_handlerPair {bound : List (List HttpOperation)}
    (matched : List.Forall₂ (fun info operations => operations.isEmpty = !info.hasRoutes)
      services bound) :
    (((services.zip bound).filter (!·.2.isEmpty)).flatMap fun routed => handlerPair routed.1) =
      services.flatMap handlerNames := by
  induction matched with
  | nil => rfl
  | @cons info operations _ _ first _ ih =>
    have names : handlerPair info =
        [info.name ++ "HTTPHandler", "New" ++ info.name ++ "HTTPHandler"] := by
      rw [handlerPair, constructorName_handlerName]
      rfl
    rw [List.zip_cons_cons, List.filter_cons, List.flatMap_cons, ← ih, handlerNames]
    cases routes : info.hasRoutes with
    | false => simp [first, routes]
    | true => simp [first, routes, names]

theorem ensures_httpBody (capital : ∀ info ∈ services, StartsCapital info.name) :
    Ensures (httpBody emitter services) fun items =>
      exported (items.getD []) = services.flatMap handlerNames := by
  have helpers : exported httpHelpers = [] := by decide
  unfold httpBody
  refine (ensures_each fun info _ => ensures_httpOperations info).bind fun bound matched => ?_
  rw [← flatMap_handlerPair matched]
  by_cases silent : bound.all (·.isEmpty)
  · rw [if_pos silent]
    apply ensures_pure
    have none : (services.zip bound).filter (!·.2.isEmpty) = [] := by
      rw [List.filter_eq_nil_iff]
      intro routed isRouted
      have empty := List.all_eq_true.mp silent routed.2 (List.of_mem_zip isRouted).2
      simpa using empty
    rw [none]
    rfl
  · rw [if_neg silent]
    refine ensures_bind fun _ => ?_
    have ofRouted (routed : ServiceInfo × List HttpOperation)
        (isRouted : routed ∈ (services.zip bound).filter (!·.2.isEmpty)) :
        Ensures (handlerItems emitter routed.1 routed.2) fun items =>
          exported items = handlerPair routed.1 :=
      have isService := (List.of_mem_zip (List.mem_filter.mp isRouted).1).1
      ensures_handlerItems (capital routed.1 isService) routed.2
    refine (ensures_each ofRouted).bind fun handlers names => ?_
    apply ensures_pure
    rw [Option.getD_some, Code.exported_append, exported_flatten names, helpers, List.append_nil]

/-! ## Validators -/

theorem exported_validatorItems (declared : List Validation.Method) :
    exported (Validation.validatorItems declared) = [Naming.requiredErrorType] := by
  have error : exported Validation.requiredErrorItems = [Naming.requiredErrorType] := by decide
  rw [Validation.validatorItems, Code.exported_append, error, exported_flatMap]
  simp [Validation.Method.items, Item.names]

/-! ## Files -/

theorem exported_docItems (services : List ServiceInfo) :
    exported (docItems emitter services) = [] := by
  simp [docItems, Item.names, exported]

/-- The exported names of a file, tests apart. -/
def fileNames (contents : Contents) : CodeFile → List String
  | .types => Naming.unitType :: contents.shapes.flatMap typeNames
  | .service => contents.services.flatMap interfaceNames
  | .http => contents.services.flatMap handlerNames
  | .mock => contents.services.flatMap mockNames
  | .validators => if contents.structures.isEmpty then [] else [Naming.requiredErrorType]
  | .serviceTest => []

/-- Code that is there only if there are services exports what it would export of them. -/
theorem ensures_ofServices
    {contents : Contents} {step : Emitter → List ServiceInfo → Build (List Item)}
    {names : ServiceInfo → List String}
    (written : Ensures (step emitter contents.services) fun items =>
      exported items = contents.services.flatMap names) :
    Ensures (CodeFile.items.ofServices emitter contents step) fun items =>
      exported (items.getD []) = contents.services.flatMap names := by
  unfold CodeFile.items.ofServices
  by_cases empty : contents.services.isEmpty
  · rw [if_pos empty, List.isEmpty_iff.mp empty]
    exact ensures_pure rfl
  · rw [if_neg empty]
    exact written.bind fun items names => ensures_pure names

theorem ensures_items {contents : Contents} {file : CodeFile}
    (shapes : ∀ shape ∈ contents.shapes,
      StartsCapital (Naming.declName shape.id) ∧ isData shape = true)
    (services : ∀ info ∈ contents.services, StartsCapital info.name)
    (noTest : file ≠ .serviceTest) :
    Ensures (file.items emitter contents) fun items =>
      exported (items.getD []) = fileNames contents file := by
  cases file with
  | types =>
    have capital (shape : Shape) (isShape : shape ∈ contents.shapes) := (shapes shape isShape).1
    have data (shape : Shape) (isShape : shape ∈ contents.shapes) := (shapes shape isShape).2
    exact (ensures_typesBody capital data).bind fun items names => ensures_pure names
  | service => exact ensures_ofServices (ensures_serviceBody services)
  | http => exact ensures_httpBody services
  | mock => exact ensures_ofServices (ensures_mockBody contents.services)
  | validators =>
    rw [CodeFile.items, fileNames]
    split
    · exact ensures_pure rfl
    · refine ensures_bind fun methods => ?_
      exact ensures_pure (exported_validatorItems methods)
  | serviceTest => exact absurd rfl noTest

end Emitted

end ShapeForge.Emit
