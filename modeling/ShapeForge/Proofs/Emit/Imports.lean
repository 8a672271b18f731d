import ShapeForge.Proofs.Emit.Exported
import ShapeForge.Proofs.Mock.LiteralTypes
import ShapeForge.Proofs.Text.Order

/-!
# Imports of emitted code

Emitting a name of another package records the import of the package on the side.  What a step
records is said by a list that is computed from what the step is given: a step `Adds` a list if,
where it succeeds, the record has exactly the imports of the list besides those that were there
before.  A name of a package is written only where its import is recorded, so a step does the same
in a scope that gives other namespaces other packages.
-/

namespace ShapeForge

/-! ## Known imports -/

/-- The paths of the standard library that emitted code uses. -/
def standardPaths : List String :=
  ["context", "encoding/json", "errors", "fmt", "io", "net/http", "reflect", "regexp", "strconv",
    "testing", "time"]

/-- The import of a path under its last element. -/
def standard (path : String) : String × String :=
  (path, match Text.cutLast '/' path with
    | some (_, last) => last
    | none => path)

namespace Scope

variable (scope : Scope)

def pathOf (space : String) : String :=
  (scope.package space).2

def importOf (space : String) : String × String :=
  (scope.pathOf space, (scope.package space).1)

/-- The imports that emitted code may need: those of the standard library, and those of the
namespaces of the model. -/
def Known (entry : String × String) : Prop :=
  (∃ path ∈ standardPaths, entry = standard path) ∨
    ∃ space ∈ scope.model.namespaces, entry = scope.importOf space

/-- The paths of namespaces differ from one another and from those of the standard library. -/
structure Separate : Prop where
  distinct : (scope.model.namespaces.map scope.pathOf).Nodup
  apart : ∀ space ∈ scope.model.namespaces, scope.pathOf space ∉ standardPaths

/-- The scope in which namespaces have other packages. -/
def under (package : String → String × String) : Scope :=
  { scope with package }

/-- All namespaces that are imported have the same packages under other ones. -/
def Agrees (package : String → String × String) (imports : Imports) : Prop :=
  ∀ space, scope.importOf space ∈ imports → package space = scope.package space

variable {scope}

/-- A path is known under one name. -/
theorem Separate.unique {first second : String × String} (separate : scope.Separate)
    (isKnown : scope.Known first) (alsoKnown : scope.Known second) (samePath : first.1 = second.1) :
    first = second := by
  rcases isKnown with ⟨path, isStandard, rfl⟩ | ⟨space, isSpace, rfl⟩
  · rcases alsoKnown with ⟨other, alsoStandard, rfl⟩ | ⟨other, isOther, rfl⟩
    · exact congrArg standard samePath
    · have samePath : path = scope.pathOf other := samePath
      exact (separate.apart other isOther (samePath ▸ isStandard)).elim
  · rcases alsoKnown with ⟨other, isStandard, rfl⟩ | ⟨other, isOther, rfl⟩
    · have samePath : scope.pathOf space = other := samePath
      exact (separate.apart space isSpace (samePath.symm ▸ isStandard)).elim
    · rw [List.inj_on_of_nodup_map separate.distinct isSpace isOther samePath]

end Scope

theorem Imports.mem_of_add {path name : String} {imports : Imports} {entry : String × String}
    (isThere : entry ∈ imports.add path name) :
    entry ∈ imports ∨ entry = (path, name) := by
  fun_induction Imports.add path name imports with grind

/-- Adding an import whose path is there at most under the same name removes nothing. -/
theorem Imports.mem_add {path name : String} {imports : Imports} {entry : String × String}
    (same : ∀ entry ∈ imports, entry.1 = path → entry = (path, name))
    (isMember : entry ∈ imports ∨ entry = (path, name)) :
    entry ∈ imports.add path name := by
  fun_induction Imports.add path name imports with grind

/-! ## What steps add -/

namespace Scope

open Recording

section Steps

variable {σ α β : Type} {scope : Scope} {package : String → String × String}
  {seen : σ → Imports} {needs more : Imports}

/-- What a step has done that succeeded with a value: the value has a property, and the imports of a
list were added to the known ones that were recorded before.  The other step, which is the same
under other packages, gives the same value with the same imports if these agree on the list. -/
structure Added
    (scope : Scope) (package : String → String × String) (seen : σ → Imports) (needs : Imports)
    (property : α → Prop) (step other : ExceptT Fault (StateM σ) α) (record : σ) (value : α) :
    Prop where
  holds : property value
  known : ∀ entry ∈ seen (step.run record).2, scope.Known entry
  within : ∀ entry ∈ seen (step.run record).2, entry ∈ seen record ∨ entry ∈ needs
  whole : scope.Separate → ∀ entry, entry ∈ seen record ∨ entry ∈ needs →
    entry ∈ seen (step.run record).2
  alike : scope.Agrees package needs → ∀ before, seen before = seen record →
    (other.run before).1 = .ok value ∧ seen (other.run before).2 = seen (step.run record).2

/-- The step adds the imports of a list wherever it succeeds. -/
def Adds
    (scope : Scope) (package : String → String × String) (seen : σ → Imports) (needs : Imports)
    (property : α → Prop) (step other : ExceptT Fault (StateM σ) α) : Prop :=
  ∀ record value, (∀ entry ∈ seen record, scope.Known entry) → (step.run record).1 = .ok value →
    Added scope package seen needs property step other record value

variable {property : α → Prop} {step other : ExceptT Fault (StateM σ) α} {post : β → Prop}
  {next otherNext : α → ExceptT Fault (StateM σ) β}

theorem adds_pure {value : α} (holds : property value) :
    Adds scope package seen [] property (pure value) (pure value) := by
  rintro record _ known ⟨⟩
  exact ⟨holds, known, fun _ => Or.inl, fun _ _ => (or_iff_left List.not_mem_nil).mp,
    fun _ _ same => ⟨rfl, same⟩⟩

theorem adds_throw (property : α → Prop) (fault : Fault) :
    Adds scope package seen needs property (throw fault) (throw fault) := by
  rintro record _ known ⟨⟩

theorem Adds.bind (first : Adds scope package seen needs property step other)
    (second : ∀ value, property value →
      Adds scope package seen more post (next value) (otherNext value)) :
    Adds scope package seen (needs ++ more) post (step >>= next) (other >>= otherNext) := by
  intro record result known succeeded
  cases ran : step.run record with
  | mk outcome between =>
    rw [run_bind, ran] at succeeded
    cases outcome with
    | error fault => cases succeeded
    | ok value =>
      have ofFirst := first record value known (by rw [ran])
      have knownBetween := ofFirst.known
      rw [ran] at knownBetween
      have ofSecond := second value ofFirst.holds between result knownBetween succeeded
      have whole : (step >>= next).run record = (next value).run between := by
        rw [run_bind, ran]
      refine ⟨ofSecond.holds, ?_, ?_, ?_, ?_⟩
      · rw [whole]
        exact ofSecond.known
      · intro entry isThere
        rw [whole] at isThere
        have within := ofFirst.within entry
        rw [ran] at within
        rw [List.mem_append, ← or_assoc]
        exact (ofSecond.within entry isThere).imp_left within
      · intro separate entry isMember
        have between := ofFirst.whole separate entry
        rw [ran] at between
        rw [List.mem_append, ← or_assoc] at isMember
        rw [whole]
        exact ofSecond.whole separate entry (isMember.imp_left between)
      · intro agrees before same
        obtain ⟨given, alsoBetween⟩ := ofFirst.alike
          (fun space isNeeded => agrees space (List.mem_append_left _ isNeeded)) before same
        have ofNext := ofSecond.alike
          fun space isNeeded => agrees space (List.mem_append_right _ isNeeded)
        rw [whole, run_bind]
        rw [ran] at alsoBetween
        cases alsoRan : other.run before with
        | mk outcome after =>
          rw [alsoRan] at given alsoBetween
          cases given
          exact ofNext after alsoBetween

theorem Adds.congr (adds : Adds scope package seen needs property step other)
    (same : ∀ entry, entry ∈ needs ↔ entry ∈ more) :
    Adds scope package seen more property step other := by
  intro record value known succeeded
  obtain ⟨holds, knownAfter, within, whole, alike⟩ := adds record value known succeeded
  refine ⟨holds, knownAfter, ?_, ?_, fun agrees => alike ?_⟩
  · simpa only [same] using within
  · simpa only [same] using whole
  · exact fun space isNeeded => agrees space ((same _).mp isNeeded)

theorem Adds.imp {post : α → Prop} (adds : Adds scope package seen needs property step other)
    (holds : ∀ value, property value → post value) :
    Adds scope package seen needs post step other := by
  intro record value known succeeded
  have added := adds record value known succeeded
  exact { added with holds := holds value added.holds }

/-- A step that is another one only if packages do not agree. -/
theorem Adds.of_agrees (adds : Adds scope package seen needs property step step)
    (alike : scope.Agrees package needs → other = step) :
    Adds scope package seen needs property step other := by
  intro record value known succeeded
  have added := adds record value known succeeded
  exact { added with alike := fun agrees => alike agrees ▸ added.alike agrees }

theorem Adds.ends (adds : Adds scope package seen needs property step other)
    (rest : ∀ value, property value →
      Adds scope package seen [] post (next value) (otherNext value)) :
    Adds scope package seen needs post (step >>= next) (other >>= otherNext) := by
  have both := adds.bind rest
  rwa [List.append_nil] at both

theorem Adds.return {result : α → β} (adds : Adds scope package seen needs property step other)
    (holds : ∀ value, property value → post (result value)) :
    Adds scope package seen needs post (step >>= fun value => pure (result value))
      (other >>= fun value => pure (result value)) :=
  adds.ends fun value isValue => adds_pure (holds value isValue)

theorem Adds.done {result : α → β} (adds : Adds scope package seen needs property step other) :
    Adds scope package seen needs (fun _ => True) (step >>= fun value => pure (result value))
      (other >>= fun value => pure (result value)) :=
  adds.return fun _ _ => True.intro

/-- A step that adds nothing. -/
theorem Adds.then (first : Adds scope package seen [] property step other)
    (second : ∀ value, property value →
      Adds scope package seen needs post (next value) (otherNext value)) :
    Adds scope package seen needs post (step >>= next) (other >>= otherNext) :=
  first.bind second

/-- A step that is taken under a condition, and what follows it in either case. -/
theorem Adds.after_if {condition : Prop} [Decidable condition]
    {step other : ExceptT Fault (StateM σ) PUnit}
    {next otherNext : PUnit → ExceptT Fault (StateM σ) β}
    (first : Adds scope package seen needs (fun _ => True) step other)
    (rest : Adds scope package seen more post (next ⟨⟩) (otherNext ⟨⟩)) :
    Adds scope package seen ((if condition then needs else []) ++ more) post
      (if condition then step >>= next else next ⟨⟩)
      (if condition then other >>= otherNext else otherNext ⟨⟩) := by
  split
  · exact first.bind fun _ _ => rest
  · exact rest

end Steps

/-! ## Names and types -/

/-- Emission that adds imports to those that were recorded before. -/
abbrev Emits
    {α : Type} (scope : Scope) (package : String → String × String) (needs : Imports)
    (emission : Scope → Emission α) : Prop :=
  Adds (σ := Imports) scope package (fun imports => imports) needs (fun _ => True)
    (emission scope) (emission (scope.under package))

/-- The import that names of a namespace need, unless code is emitted into the namespace. -/
def foreign (scope : Scope) (space : String) : Imports :=
  if space == scope.space then [] else [scope.importOf space]

def typeNeeds (scope : Scope) : TypeRef → Imports
  | .primitive _ kind => if kind == .timestamp then [standard "time"] else []
  | type => scope.foreign type.target.nameSpace

def memberNeeds (scope : Scope) (member : Member) : Imports :=
  match scope.model.classifyMember member with
  | .ok type => scope.typeNeeds type
  | .error _ => []

def ioNeeds (scope : Scope) (id : ShapeId) : Imports :=
  if id.isUnit then [] else scope.foreign id.nameSpace

theorem mem_namespaces_of_lookup? {model : Model} {id : ShapeId} {shape : Shape}
    (found : model.lookup? id = some shape) :
    id.nameSpace ∈ model.namespaces := by
  rw [Model.namespaces, Text.mem_sortedDistinct, ← Model.id_of_lookup? found]
  exact List.mem_map_of_mem (f := fun shape : Shape => shape.id.nameSpace)
    (List.mem_of_find?_eq_some found)

section Types

variable {scope : Scope} {package : String → String × String}

theorem emits_useAs {entry : String × String} (isKnown : scope.Known entry) :
    scope.Emits package [entry] (fun _ => Emission.useAs entry.1 entry.2) := by
  intro imports _ known _
  have within : ∀ other ∈ imports.add entry.1 entry.2, other ∈ imports ∨ other ∈ [entry] :=
    fun other isThere => (Imports.mem_of_add isThere).imp_right List.mem_singleton.mpr
  refine ⟨True.intro, fun other isThere => ?_, within, fun separate other isMember => ?_,
    fun _ _ same => ⟨rfl, by rw [same]⟩⟩
  · rcases within other isThere with wasThere | isNew
    · exact known other wasThere
    · rwa [List.mem_singleton.mp isNew]
  · have same : ∀ other ∈ imports, other.1 = entry.1 → other = entry :=
      fun other isThere samePath => separate.unique (known other isThere) isKnown samePath
    exact Imports.mem_add same (isMember.imp_right List.mem_singleton.mp)

theorem emits_use {path : String} (isStandard : path ∈ standardPaths) :
    scope.Emits package [standard path] (fun _ => Emission.use path) :=
  emits_useAs (Or.inl ⟨path, isStandard, rfl⟩)

theorem emits_liftFault {α : Type} (outcome : Except Fault α) :
    Adds (σ := Imports) scope package (fun imports => imports) [] (fun value => outcome = .ok value)
      (Emission.liftFault outcome) (Emission.liftFault outcome) :=
  fun _ _ known succeeded =>
    ⟨succeeded, known, fun _ => Or.inl, fun _ _ => (or_iff_left List.not_mem_nil).mp,
      fun _ _ same => ⟨succeeded, same⟩⟩

theorem emits_qualifyName {id : ShapeId}
    (isSpace : id.nameSpace ∈ scope.model.namespaces) (name : String) :
    scope.Emits package (scope.foreign id.nameSpace) (·.qualifyName id name) := by
  have isKnown : scope.Known (scope.importOf id.nameSpace) := Or.inr ⟨id.nameSpace, isSpace, rfl⟩
  unfold foreign
  split
  · rename_i isOwn
    have own : scope.qualifyName id name = pure name := if_pos isOwn
    have alsoOwn : (scope.under package).qualifyName id name = pure name := if_pos isOwn
    rw [Emits, own, alsoOwn]
    exact adds_pure True.intro
  · rename_i isForeign
    have qualified (package : String → String × String) :
        (scope.under package).qualifyName id name =
          Emission.useAs (package id.nameSpace).2 (package id.nameSpace).1 >>= fun _ =>
            pure ((package id.nameSpace).1 ++ "." ++ name) :=
      if_neg isForeign
    have here := qualified scope.package
    rw [show scope.under scope.package = scope from rfl] at here
    rw [Emits, qualified package, here]
    refine Adds.of_agrees ((emits_useAs isKnown).done) ?_
    intro agrees
    rw [agrees _ List.mem_cons_self]

/-- A type is named by the package of its shape, which the scope has for all that it finds. -/
theorem emits_typeExpr {target : ShapeId} {type : TypeRef}
    (classified : scope.model.classify target = .ok type) :
    scope.Emits package (scope.typeNeeds type) (·.typeExpr type) := by
  rcases Model.classify_cases classified with ⟨kind, rfl⟩ | ⟨shape, found, isShape, -⟩
  · unfold typeNeeds typeExpr
    by_cases isTime : kind == .timestamp
    · simp only [isTime, if_true]
      exact (emits_use (by decide)).done
    · simp only [isTime]
      exact adds_pure True.intro
  · have isSpace : type.target.nameSpace ∈ scope.model.namespaces := by
      rw [Model.target_of_classify classified]
      exact mem_namespaces_of_lookup? found
    cases type with
    | primitive target kind => cases isShape
    | _ => exact emits_qualifyName isSpace _

theorem emits_fieldType (member : Member) :
    scope.Emits package (scope.memberNeeds member) (·.fieldType member) := by
  refine (emits_liftFault _).then fun type classified => ?_
  rw [memberNeeds, classified]
  exact (emits_typeExpr (Model.classifyMember_eq_ok.mp classified)).done

theorem emits_ioType (id : ShapeId) : scope.Emits package (scope.ioNeeds id) (·.ioType id) := by
  unfold ioNeeds ioType
  split
  · exact adds_pure True.intro
  · refine (emits_liftFault _).then fun shape resolved => ?_
    have found := (Model.resolveStructure_eq_ok resolved).1
    exact emits_qualifyName (mem_namespaces_of_lookup? found) _

end Types

/-! ## Instances -/

def convertedNeeds (scope : Scope) (shape : ShapeId) : Imports :=
  if shape.isPrelude then [] else scope.foreign shape.nameSpace

mutual

/-- The imports that the expression of an instance needs. -/
def instanceNeeds (scope : Scope) : MockValue → Imports
  | .string shape _ _ => scope.convertedNeeds shape
  | .int shape _ _ => scope.convertedNeeds shape
  | .float shape _ _ => scope.convertedNeeds shape
  | .bool shape _ _ => scope.convertedNeeds shape
  | .timestamp shape _ => standard "time" :: scope.convertedNeeds shape
  | .blob shape _ _ => scope.convertedNeeds shape
  | .enumeration shape _ _ _ => scope.foreign shape.nameSpace
  | .structure shape fields => scope.foreign shape.nameSpace ++ fieldsNeeds scope fields
  | .list shape items => scope.foreign shape.nameSpace ++ itemsNeeds scope items
  | .map shape entries => scope.foreign shape.nameSpace ++ entriesNeeds scope entries
  | .unknown _ _ => []

def fieldsNeeds (scope : Scope) : List (Member × MockValue) → Imports
  | [] => []
  | (_, value) :: rest => instanceNeeds scope value ++ fieldsNeeds scope rest

def itemsNeeds (scope : Scope) : List MockValue → Imports
  | [] => []
  | item :: rest => instanceNeeds scope item ++ itemsNeeds scope rest

def entriesNeeds (scope : Scope) : List (MockValue × MockValue) → Imports
  | [] => []
  | (key, value) :: rest =>
    instanceNeeds scope key ++ (instanceNeeds scope value ++ entriesNeeds scope rest)

end

/-- The imports that an instance of a structure needs where it is written as an input or output. -/
def inputNeeds (scope : Scope) (mocks : Mocks) (id : ShapeId) : Imports :=
  if id.isUnit then []
  else match mocks.ofStructure id with
    | .ok value => scope.instanceNeeds value
    | .error _ => []

section Instances

variable {scope : Scope} {package : String → String × String}

def Renders (scope : Scope) (package : String → String × String) (value : MockValue) : Prop :=
  scope.Emits package (scope.instanceNeeds value) (value.expr ·)

theorem emits_typed {shape : ShapeId}
    (declared : shape.isPrelude = false → shape.nameSpace ∈ scope.model.namespaces)
    (bare : Code.Expr) :
    scope.Emits package (scope.convertedNeeds shape)
      (MockValue.typed · shape bare) := by
  unfold convertedNeeds MockValue.typed
  split
  · exact adds_pure True.intro
  · rename_i notPrelude
    exact (emits_qualifyName (declared (by simpa using notPrelude)) _).done

theorem renders_scalar {target : ShapeId} {kind : SimpleKind} {value : MockValue}
    (declared : target.isPrelude = false → target.nameSpace ∈ scope.model.namespaces)
    (scalar : Mocks.Scalar target kind value) :
    scope.Renders package value := by
  cases scalar with
  | timestamp =>
    exact (emits_use (by decide)).bind fun _ _ => emits_typed declared _
  | _ => exact emits_typed declared _

theorem emits_fieldExprs {fields : List (Member × MockValue)}
    (renders : ∀ field ∈ fields, scope.Renders package field.2) (declared : Shape) :
    scope.Emits package (scope.fieldsNeeds fields)
      (MockValue.fieldExprs · declared fields) := by
  induction fields with
  | nil =>
    simp only [fieldsNeeds, MockValue.fieldExprs]
    exact adds_pure True.intro
  | cons field rest ih =>
    obtain ⟨ofField, ofRest⟩ := List.forall_mem_cons.mp renders
    simp only [fieldsNeeds, MockValue.fieldExprs]
    exact ofField.bind fun _ _ => (ih ofRest).done

theorem emits_itemExprs {items : List MockValue}
    (renders : ∀ item ∈ items, scope.Renders package item) :
    scope.Emits package (scope.itemsNeeds items) (MockValue.itemExprs · items) := by
  induction items with
  | nil =>
    simp only [itemsNeeds, MockValue.itemExprs]
    exact adds_pure True.intro
  | cons item rest ih =>
    obtain ⟨ofItem, ofRest⟩ := List.forall_mem_cons.mp renders
    simp only [itemsNeeds, MockValue.itemExprs]
    exact ofItem.bind fun _ _ => (ih ofRest).done

theorem emits_entryExprs {entries : List (MockValue × MockValue)}
    (renders : ∀ entry ∈ entries, scope.Renders package entry.1 ∧ scope.Renders package entry.2) :
    scope.Emits package (scope.entriesNeeds entries)
      (MockValue.entryExprs · entries) := by
  induction entries with
  | nil =>
    simp only [entriesNeeds, MockValue.entryExprs]
    exact adds_pure True.intro
  | cons entry rest ih =>
    obtain ⟨⟨ofKey, ofValue⟩, ofRest⟩ := List.forall_mem_cons.mp renders
    simp only [entriesNeeds, MockValue.entryExprs]
    refine ofKey.bind fun _ _ => ofValue.bind fun _ _ => ?_
    exact (ih ofRest).done

theorem renders_structure {id : ShapeId} {shape : Shape} {fields : List (Member × MockValue)}
    (resolved : scope.model.resolveStructure id = .ok shape)
    (renders : ∀ field ∈ fields, scope.Renders package field.2) :
    scope.Renders package (.structure id fields) := by
  have isSpace := mem_namespaces_of_lookup? (Model.resolveStructure_eq_ok resolved).1
  simp only [Renders, instanceNeeds, MockValue.expr]
  refine (emits_liftFault _).then fun declared _ => ?_
  refine (emits_qualifyName isSpace _).bind fun _ _ => ?_
  exact (emits_fieldExprs renders declared).done

/-- The expression of a synthesized instance records the packages of all shapes in it. -/
theorem renders_synthesized
    {mocks : Mocks} {active : List ShapeId} {target : ShapeId} {result : Option MockValue}
    (same : mocks.model = scope.model)
    (synthesized : Mocks.Synthesized mocks active target result) :
    ∀ value ∈ result, scope.Renders package value := by
  have isSpace {target : ShapeId} {type : TypeRef} {shape : Shape}
      (classified : mocks.model.classify target = .ok type) (isShape : type.shape? = some shape) :
      shape.id.nameSpace ∈ scope.model.namespaces := by
    rw [same] at classified
    have found := (Model.lookup?_of_classify classified isShape).1
    rw [Model.id_of_lookup? found]
    exact mem_namespaces_of_lookup? found
  induction synthesized with
  | primitive classified scalar =>
    rintro _ ⟨⟩
    have isPrelude := Model.isPrelude_of_primitive classified
    exact renders_scalar (fun notPrelude => by simp [isPrelude] at notPrelude) scalar
  | simple classified scalar =>
    rintro _ ⟨⟩
    exact renders_scalar (fun _ => isSpace classified rfl) scalar
  | enumeration classified isMember =>
    rintro _ ⟨⟩
    exact (emits_qualifyName (isSpace classified rfl) _).done
  | «structure» results classified _ aligned _ ih =>
    rintro _ ⟨⟩
    rw [same] at classified
    obtain ⟨resolved, -⟩ := Mocks.resolveStructure_of_classify classified
    exact renders_structure resolved fun field isField =>
      ih _ (Mocks.mem_present.mp isField) field.2 rfl
  | list results classified element _ _ _ ih =>
    rintro _ ⟨⟩
    have renders (value : MockValue) (isItem : value ∈ results.filterMap id) :=
      ih (some value) (by simpa using isItem) value rfl
    simp only [Renders, instanceNeeds, MockValue.expr]
    refine (emits_qualifyName (isSpace classified rfl) _).bind fun _ _ => ?_
    exact (emits_itemExprs renders).done
  | map classified _ _ valueIH keyIH =>
    rintro _ ⟨⟩
    simp only [Renders, instanceNeeds, MockValue.expr]
    refine (emits_qualifyName (isSpace classified rfl) _).bind fun _ _ => ?_
    refine (emits_entryExprs ?_).done
    simpa using ⟨keyIH _ rfl, valueIH _ rfl⟩
  | emptyEnumeration | activeStructure | activeElement | withoutValue | withoutKey =>
    rintro _ ⟨⟩

theorem emits_inputExpr {mocks : Mocks} (same : mocks.model = scope.model) (id : ShapeId) :
    scope.Emits package (scope.inputNeeds mocks id)
      (Mock.inputExpr · mocks id) := by
  unfold inputNeeds Mock.inputExpr
  split
  · exact adds_pure True.intro
  · refine (emits_liftFault _).then fun value run => ?_
    rw [run]
    obtain ⟨shape, fields, resolved, rfl, results, -, rfl, parts⟩ :=
      Mocks.synthesized_of_ofStructure run
    rw [same] at resolved
    have renders : scope.Renders package (.structure id (Mocks.present results)) :=
      renders_structure resolved fun field isField =>
        renders_synthesized same (parts _ (Mocks.mem_present.mp isField)) field.2 rfl
    have field : scope.Emits package (scope.instanceNeeds (.structure id (Mocks.present results)))
      (MockValue.fieldExpr · (.structure id (Mocks.present results))) :=
      renders.done
    exact field.done

end Instances

end Scope

end ShapeForge
