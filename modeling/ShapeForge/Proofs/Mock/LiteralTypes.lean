import ShapeForge.Mock.Literal
import ShapeForge.Proofs.Mock.Walk
import ShapeForge.Proofs.Recording

/-!
# The types of literals

An instance is rendered by its own kind and shape, and a field is declared by what its target was
classified as.  `Code.Expr.HasType` gives expressions their types.  The literal of every part of a
synthesized instance has the type that is declared where the part stands: pointers where the field
is a pointer, and names qualified alike.
-/

namespace ShapeForge

variable {model : Model} {target : ShapeId}

/-! ## Type expressions -/

namespace Scope

open Recording
open Emission (useAs)

variable (scope : Scope)

theorem gives_useAs (path name : String) : Gives (useAs path name) () :=
  fun _ => rfl

theorem gives_liftFault {α : Type} {outcome : Except Fault α} {value : α}
    (succeeded : outcome = .ok value) :
    Gives (Emission.liftFault outcome) value := by
  subst succeeded
  exact fun _ => rfl

/-- The name under which something that belongs to a shape's package is written. -/
def written (id : ShapeId) (name : String) : String :=
  if id.nameSpace == scope.space then name
  else (scope.package id.nameSpace).1 ++ "." ++ name

def typeText : TypeRef → String
  | .primitive _ kind => kind.goType
  | type => scope.written type.target (Naming.declName type.target)

def fieldText (type : TypeRef) : String :=
  if type.isNilable then scope.typeText type else "*" ++ scope.typeText type

theorem gives_qualifyName (id : ShapeId) (name : String) :
    Gives (scope.qualifyName id name) (scope.written id name) := by
  unfold qualifyName written
  split
  · exact gives_pure name
  · exact (gives_useAs _ _).bind (gives_pure _)

theorem gives_typeExpr (type : TypeRef) : Gives (scope.typeExpr type) (scope.typeText type) := by
  cases type with
  | primitive target kind =>
    unfold typeExpr
    by_cases isTime : kind == .timestamp
    · simp only [isTime, if_true]
      exact (gives_useAs _ _).bind (gives_pure _)
    · simp only [isTime]
      exact gives_pure _
  | _ => exact scope.gives_qualifyName _ _

variable {scope}

theorem gives_typeName {target : ShapeId} {type : TypeRef}
    (classified : scope.model.classify target = .ok type) :
    Gives (scope.typeName target) (scope.typeText type) :=
  (gives_liftFault classified).bind (scope.gives_typeExpr type)

theorem gives_fieldType {member : Member} {type : TypeRef}
    (classified : scope.model.classify member.target = .ok type) :
    Gives (scope.fieldType member) (scope.fieldText type, type) := by
  have classifiedMember := Model.classifyMember_eq_ok.mpr classified
  exact (gives_liftFault classifiedMember).bind ((scope.gives_typeExpr type).bind (gives_pure _))

end Scope

/-! ## Types of expressions -/

/-- A constant of an enumeration of the model, and the type of the enumeration. -/
def Scope.Declares (scope : Scope) (name type : String) : Prop :=
  ∃ id shape numeric members, ∃ member ∈ members,
    scope.model.lookup? id = some shape ∧ shape.body = .enumeration numeric members ∧
      name = scope.written id (Naming.enumConstName id member.name) ∧
      type = scope.written id (Naming.declName id)

namespace Code.Expr

/-- The types of expressions, where constants have given types. -/
inductive HasType (constants : String → String → Prop) : Expr → String → Prop where
  | constant {name type} (declared : constants name type) :
      HasType constants (.constant name) type
  | string {text} :
      HasType constants (.string text) "string"
  | int {number} :
      HasType constants (.int number) "int"
  | bool {value} :
      HasType constants (.bool value) "bool"
  | now :
      HasType constants .now "time.Time"
  | bytes {text} :
      HasType constants (.bytes text) "[]byte"
  | convert {type value} :
      HasType constants (.convert type value) type
  | pointer {value type} (pointed : HasType constants value type) :
      HasType constants (.pointer value) ("*" ++ type)
  | address {value type} (addressed : HasType constants value type) :
      HasType constants (.address value) ("*" ++ type)
  | structure {type fields} :
      HasType constants (.structure type fields) type
  | list {type items} :
      HasType constants (.list type items) type
  | map {type entries} :
      HasType constants (.map type entries) type

theorem HasType.unique {constants : String → String → Prop} {expr : Expr} {type other : String}
    (single : ∀ name first second, constants name first → constants name second → first = second)
    (typed : HasType constants expr type) (alsoTyped : HasType constants expr other) :
    type = other := by
  induction typed generalizing other with
  | constant declared =>
    cases alsoTyped with
    | constant alsoDeclared => exact single _ _ _ declared alsoDeclared
  | pointer _ ih =>
    cases alsoTyped with
    | pointer pointed => rw [ih pointed]
  | address _ ih =>
    cases alsoTyped with
    | address addressed => rw [ih addressed]
  | _ =>
    cases alsoTyped
    rfl

end Code.Expr

/-! ## Scalars -/

theorem Model.isPrelude_of_primitive {other : ShapeId} {kind : SimpleKind}
    (classified : model.classify target = .ok (.primitive other kind)) :
    target.isPrelude = true := by
  unfold classify at classified
  grind [typeOf]

/-- Simple data has a type of the emitted code, or it would not have been classified. -/
theorem Model.mapped_of_classify {type : TypeRef} {kind : SimpleKind}
    (classified : model.classify target = .ok type) (isSimple : type.simpleKind? = some kind) :
    kind.goType?.isSome = true := by
  unfold classify at classified
  grind [typeOf, TypeRef.simpleKind?]

theorem Model.not_isPrelude_of_shape {type : TypeRef} {shape : Shape}
    (classified : model.classify target = .ok type) (isShape : type.shape? = some shape) :
    target.isPrelude = false := by
  unfold classify at classified
  grind [TypeRef.shape?]

namespace Mocks

open Recording
open Scope (gives_useAs gives_liftFault)
open Code (Expr)
open Code.Expr (HasType)

variable {scope : Scope} {type : TypeRef}

/-- An instance is rendered as an expression of the type of its target, and in a field as one of
the type of the field. -/
def Rendered (scope : Scope) (target : ShapeId) (value : MockValue) : Prop :=
  ∃ type literal, scope.model.classify target = .ok type ∧ Gives (value.expr scope) literal ∧
    HasType scope.Declares literal (scope.typeText type) ∧
    HasType scope.Declares (value.asField literal) (scope.fieldText type)

theorem gives_typed (shape : ShapeId) (bare : Expr) :
    Gives (MockValue.typed scope shape bare)
      (if shape.isPrelude then bare
      else .convert (scope.written shape (Naming.declName shape)) bare) := by
  unfold MockValue.typed
  by_cases isPrelude : shape.isPrelude
  · simp only [isPrelude, if_true]
    exact gives_pure bare
  · simp only [isPrelude]
    exact (scope.gives_qualifyName _ _).bind (gives_pure _)

variable {value : MockValue} {shape : Shape} {kind : SimpleKind}

/-- A scalar has a bare literal of the type of its kind, which is converted to the type of a shape
of the model.  Only blobs stand in fields as they are. -/
theorem Scalar.bare (scalar : Scalar target kind value) (mapped : kind.goType?.isSome = true) :
    ∃ bare, HasType scope.Declares bare kind.goType ∧
      Gives (value.expr scope)
        (if target.isPrelude then bare
        else .convert (scope.written target (Naming.declName target)) bare) ∧
      ∀ literal, value.asField literal = if kind == .blob then literal else .pointer literal := by
  cases scalar with
  | int number whole low high =>
    refine ⟨if some kind == some .integer then .int number
      else .convert kind.goType (.int number), ?_, ?_, ?_⟩
    · by_cases isInteger : kind = .integer
      · subst isInteger
        exact .int
      · simp only [beq_iff_eq, Option.some.injEq, isInteger, if_false]
        exact .convert
    · exact gives_typed target _
    · intro literal
      cases kind with
      | integer | long | short | byte => rfl
      | _ => cases whole
  | float count fractional bounded =>
    refine ⟨.convert kind.goType (.float (.hundredths count)), .convert, gives_typed target _, ?_⟩
    intro literal
    cases kind with
    | float | double => rfl
    | _ => cases fractional
  | bool value isBoolean =>
    subst isBoolean
    exact ⟨.bool value, .bool, gives_typed target _, fun _ => rfl⟩
  | timestamp isTimestamp =>
    subst isTimestamp
    exact ⟨.now, .now, (gives_useAs _ _).bind (gives_typed target _), fun _ => rfl⟩
  | blob text isBlob =>
    subst isBlob
    exact ⟨.bytes text, .bytes, gives_typed target _, fun _ => rfl⟩
  | string text textual =>
    refine ⟨.string text, ?_, gives_typed target _, ?_⟩
    · cases kind with
      | string | document => exact .string
      | bigInteger | bigDecimal => simp [SimpleKind.goType?] at mapped
      | _ => cases textual
    · intro literal
      cases kind with
      | string | document | bigInteger | bigDecimal => rfl
      | _ => cases textual

/-- A field of nilable type holds the literal itself, and one of any other type a pointer. -/
theorem hasType_fieldText {literal : Expr} {field : Expr}
    (typed : HasType scope.Declares literal (scope.typeText type))
    (made : field = if type.isNilable then literal else .pointer literal) :
    HasType scope.Declares field (scope.fieldText type) := by
  rw [made, Scope.fieldText]
  split
  · exact typed
  · exact .pointer typed

theorem rendered_primitive (classified : scope.model.classify target = .ok (.primitive target kind))
    (scalar : Scalar target kind value) :
    Rendered scope target value := by
  have isPrelude := Model.isPrelude_of_primitive classified
  rcases scalar.bare (Model.mapped_of_classify classified rfl) with ⟨bare, typed, given, field⟩
  rw [if_pos isPrelude] at given
  exact ⟨_, bare, classified, given, typed, hasType_fieldText typed (field bare)⟩

theorem rendered_simple (classified : scope.model.classify target = .ok (.simple shape kind))
    (scalar : Scalar shape.id kind value) :
    Rendered scope target value := by
  have sameId : shape.id = target := Model.target_of_classify classified
  have notPrelude : ¬shape.id.isPrelude = true := by
    rw [sameId, Model.not_isPrelude_of_shape classified rfl]
    simp
  rcases scalar.bare (Model.mapped_of_classify classified rfl) with ⟨bare, -, given, field⟩
  rw [if_neg notPrelude] at given
  exact ⟨_, _, classified, given, .convert, hasType_fieldText .convert (field _)⟩

theorem rendered_enumeration {numeric : Bool} {members : List EnumMember} {member : EnumMember}
    (classified : scope.model.classify target = .ok (.enumeration shape numeric members))
    (isMember : member ∈ members) :
    Rendered scope target (chosen shape.id numeric member) := by
  rcases Model.lookup?_of_classify classified rfl with ⟨found, body⟩
  have sameId : shape.id = target := Model.target_of_classify classified
  have declared : scope.Declares
      (scope.written shape.id (Naming.enumConstName shape.id member.name))
      (scope.typeText (.enumeration shape numeric members)) :=
    ⟨shape.id, shape, numeric, members, member, isMember, sameId ▸ found,
      (Option.some.inj body).symm, rfl, rfl⟩
  exact ⟨_, _, classified, (scope.gives_qualifyName _ _).bind (gives_pure _),
    .constant declared, hasType_fieldText (.constant declared) rfl⟩

/-! ## Fields, items and entries -/

/-- The literal of an instance, which has a type. -/
def LiteralOf (scope : Scope) (type : String) (value : MockValue) (literal : Expr) : Prop :=
  Gives (value.expr scope) literal ∧ HasType scope.Declares literal type

/-- The literal of a field: it names the field that is declared for the member, and its value has
the type that the member's field has. -/
def FieldLiteralOf
    (scope : Scope) (declared : Shape) (field : Member × MockValue) (literal : String × Expr) :
    Prop :=
  field.1 ∈ declared.members ∧ literal.1 = Naming.memberField declared field.1 ∧
    Gives (field.2.fieldExpr scope) literal.2 ∧
    ∃ text type, Gives (scope.fieldType field.1) (text, type) ∧
      HasType scope.Declares literal.2 text

theorem gives_fieldExprs {declared : Shape} {fields : List (Member × MockValue)}
    (areMembers : ∀ field ∈ fields, field.1 ∈ declared.members)
    (rendered : ∀ field ∈ fields, Rendered scope field.1.target field.2) :
    ∃ literals, Gives (MockValue.fieldExprs scope declared fields) literals ∧
      List.Forall₂ (FieldLiteralOf scope declared) fields literals := by
  induction fields with
  | nil =>
    exact ⟨[], gives_pure _, .nil⟩
  | cons field rest ih =>
    rcases List.forall_mem_cons.mp areMembers with ⟨isMember, restMembers⟩
    rcases List.forall_mem_cons.mp rendered with ⟨⟨type, literal, classified, given, -, typed⟩,
      restRendered⟩
    rcases ih restMembers restRendered with ⟨literals, givenRest, matched⟩
    refine ⟨(Naming.memberField declared field.1, field.2.asField literal) :: literals, ?_, ?_⟩
    · rw [MockValue.fieldExprs]
      exact given.bind (givenRest.bind (gives_pure _))
    · refine .cons ⟨isMember, rfl, given.bind (gives_pure _), ?_⟩ matched
      exact ⟨_, type, Scope.gives_fieldType classified, typed⟩

theorem gives_itemExprs {items : List MockValue}
    (classified : scope.model.classify target = .ok type)
    (rendered : ∀ item ∈ items, Rendered scope target item) :
    ∃ literals, Gives (MockValue.itemExprs scope items) literals ∧
      List.Forall₂ (LiteralOf scope (scope.typeText type)) items literals := by
  induction items with
  | nil =>
    exact ⟨[], gives_pure _, .nil⟩
  | cons item rest ih =>
    rcases List.forall_mem_cons.mp rendered with ⟨⟨found, literal, isType, given, typed, -⟩,
      restRendered⟩
    cases classified.symm.trans isType
    rcases ih restRendered with ⟨literals, givenRest, matched⟩
    refine ⟨literal :: literals, ?_, .cons ⟨given, typed⟩ matched⟩
    rw [MockValue.itemExprs]
    exact given.bind (givenRest.bind (gives_pure _))

theorem gives_entryExprs
    {key value : ShapeId} {keyType valueType : TypeRef} {entries : List (MockValue × MockValue)}
    (keyClassified : scope.model.classify key = .ok keyType)
    (valueClassified : scope.model.classify value = .ok valueType)
    (rendered : ∀ entry ∈ entries, Rendered scope key entry.1 ∧ Rendered scope value entry.2) :
    ∃ literals, Gives (MockValue.entryExprs scope entries) literals ∧
      List.Forall₂ (fun entry literal =>
        LiteralOf scope (scope.typeText keyType) entry.1 literal.1 ∧
          LiteralOf scope (scope.typeText valueType) entry.2 literal.2) entries literals := by
  induction entries with
  | nil =>
    exact ⟨[], gives_pure _, .nil⟩
  | cons entry rest ih =>
    rcases List.forall_mem_cons.mp rendered with ⟨⟨keyRendered, valueRendered⟩, restRendered⟩
    rcases keyRendered with ⟨found, first, isType, firstGiven, firstTyped, -⟩
    cases keyClassified.symm.trans isType
    rcases valueRendered with ⟨found, second, isType, secondGiven, secondTyped, -⟩
    cases valueClassified.symm.trans isType
    rcases ih restRendered with ⟨literals, givenRest, matched⟩
    refine ⟨(first, second) :: literals, ?_,
      .cons ⟨⟨firstGiven, firstTyped⟩, secondGiven, secondTyped⟩ matched⟩
    rw [MockValue.entryExprs]
    exact firstGiven.bind (secondGiven.bind (givenRest.bind (gives_pure _)))

/-! ## Structures, lists and maps -/

/-- The literal of a structure has the literal of every field. -/
def StructureTyped (scope : Scope) (shape : ShapeId) (fields : List (Member × MockValue)) :
    Prop :=
  ∃ declared literals, scope.model.resolveStructure shape = .ok declared ∧
    LiteralOf scope (scope.written shape (Naming.declName shape)) (.structure shape fields)
      (.structure (scope.written shape (Naming.declName shape)) literals) ∧
    List.Forall₂ (FieldLiteralOf scope declared) fields literals

/-- The literal of a list has literals of the type of the element. -/
def ListTyped (scope : Scope) (shape : ShapeId) (items : List MockValue) : Prop :=
  ∃ declared item element literals,
    scope.model.lookup? shape = some declared ∧ declared.body = .list item ∧
    Gives (scope.typeName item.target) element ∧
    LiteralOf scope (scope.written shape (Naming.declName shape)) (.list shape items)
      (.list (scope.written shape (Naming.declName shape)) literals) ∧
    List.Forall₂ (LiteralOf scope element) items literals

/-- The literal of a map has literals of the types of the key and the value. -/
def MapTyped (scope : Scope) (shape : ShapeId) (entries : List (MockValue × MockValue)) : Prop :=
  ∃ declared key value keyText valueText literals,
    scope.model.lookup? shape = some declared ∧ declared.body = .map key value ∧
    Gives (scope.typeName key.target) keyText ∧ Gives (scope.typeName value.target) valueText ∧
    LiteralOf scope (scope.written shape (Naming.declName shape)) (.map shape entries)
      (.map (scope.written shape (Naming.declName shape)) literals) ∧
    List.Forall₂ (fun entry literal =>
      LiteralOf scope keyText entry.1 literal.1 ∧ LiteralOf scope valueText entry.2 literal.2)
      entries literals

theorem structureTyped_of_rendered
    {shape : ShapeId} {declared : Shape} {fields : List (Member × MockValue)}
    (resolved : scope.model.resolveStructure shape = .ok declared)
    (areMembers : ∀ field ∈ fields, field.1 ∈ declared.members)
    (rendered : ∀ field ∈ fields, Rendered scope field.1.target field.2) :
    StructureTyped scope shape fields := by
  rcases gives_fieldExprs areMembers rendered with ⟨literals, given, matched⟩
  refine ⟨declared, literals, resolved, ⟨?_, .structure⟩, matched⟩
  rw [MockValue.expr]
  exact (gives_liftFault resolved).bind
    ((scope.gives_qualifyName _ _).bind (given.bind (gives_pure _)))

theorem listTyped_of_rendered {item : Member} {items : List MockValue}
    (classified : scope.model.classify target = .ok (.list shape item))
    (element : scope.model.classify item.target = .ok type)
    (rendered : ∀ value ∈ items, Rendered scope item.target value) :
    ListTyped scope shape.id items := by
  rcases Model.lookup?_of_classify classified rfl with ⟨found, body⟩
  have sameId : shape.id = target := Model.target_of_classify classified
  rcases gives_itemExprs element rendered with ⟨literals, given, matched⟩
  refine ⟨shape, item, _, literals, sameId ▸ found, (Option.some.inj body).symm,
    Scope.gives_typeName element, ⟨?_, .list⟩, matched⟩
  rw [MockValue.expr]
  exact (scope.gives_qualifyName _ _).bind (given.bind (gives_pure _))

theorem mapTyped_of_rendered {key value : Member} {entry content : MockValue}
    (classified : scope.model.classify target = .ok (.map shape key value))
    (entryRendered : Rendered scope key.target entry)
    (contentRendered : Rendered scope value.target content) :
    MapTyped scope shape.id [(entry, content)] := by
  rcases Model.lookup?_of_classify classified rfl with ⟨found, body⟩
  have sameId : shape.id = target := Model.target_of_classify classified
  have both : ∀ pair ∈ [(entry, content)],
      Rendered scope key.target pair.1 ∧ Rendered scope value.target pair.2 := by
    simpa using ⟨entryRendered, contentRendered⟩
  rcases entryRendered with ⟨keyType, -, keyClassified, -⟩
  rcases contentRendered with ⟨valueType, -, valueClassified, -⟩
  rcases gives_entryExprs keyClassified valueClassified both with ⟨literals, given, matched⟩
  refine ⟨shape, key, value, _, _, literals, sameId ▸ found, (Option.some.inj body).symm,
    Scope.gives_typeName keyClassified, Scope.gives_typeName valueClassified, ⟨?_, .map⟩, matched⟩
  rw [MockValue.expr]
  exact (scope.gives_qualifyName _ _).bind (given.bind (gives_pure _))

theorem resolveStructure_of_classify {members : List Member}
    (classified : scope.model.classify target = .ok (.structure shape members)) :
    scope.model.resolveStructure shape.id = .ok shape ∧ shape.members = members := by
  rcases Model.lookup?_of_classify classified rfl with ⟨found, body⟩
  have sameId : shape.id = target := Model.target_of_classify classified
  have isStructure : shape.body = .structure members := (Option.some.inj body).symm
  constructor
  · rw [sameId]
    unfold Model.resolveStructure Model.resolveKind Model.resolve
    simp [found, bind, Except.bind, pure, Except.pure, Shape.kind, ShapeBody.kind, isStructure]
  · exact Shape.members_of_body isStructure

theorem mem_members_of_present {results : List (Member × Option MockValue)} {members : List Member}
    (aligned : results.map Prod.fst = members) :
    ∀ field ∈ present results, field.1 ∈ members := by
  intro field isField
  rw [← aligned]
  exact List.mem_map_of_mem (mem_present.mp isField)

/-! ## The nodes of an instance -/

/-- An instance is a part of another, at any depth. -/
def Within (node value : MockValue) : Prop :=
  Relation.ReflTransGen (fun whole part => part ∈ whole.parts) value node

/-- The literal of a node has literals of the declared types for its parts. -/
def NodeTyped (scope : Scope) : MockValue → Prop
  | .structure shape fields => StructureTyped scope shape fields
  | .list shape items => ListTyped scope shape items
  | .map shape entries => MapTyped scope shape entries
  | _ => True

theorem within_of_parts (here : NodeTyped scope value)
    (below : ∀ part ∈ value.parts, ∀ node, Within node part → NodeTyped scope node) :
    ∀ node, Within node value → NodeTyped scope node := by
  intro node within
  rcases Relation.ReflTransGen.cases_head within with rfl | ⟨part, isPart, within⟩
  · exact here
  · exact below part isPart node within

theorem Scalar.within (scalar : Scalar target kind value) :
    ∀ node, Within node value → NodeTyped scope node := by
  apply within_of_parts
  · cases scalar <;> trivial
  · intro part isPart
    cases scalar <;> cases isPart

/-- Every instance that synthesis gives is rendered with the type of its target, and so are its
parts. -/
theorem Synthesized.rendered {mocks : Mocks} {active : List ShapeId} {result : Option MockValue}
    (same : mocks.model = scope.model) (synthesized : Synthesized mocks active target result) :
    ∀ value ∈ result,
      Rendered scope target value ∧ ∀ node, Within node value → NodeTyped scope node := by
  induction synthesized with
  | primitive classified scalar =>
    rintro _ ⟨⟩
    exact ⟨rendered_primitive (same ▸ classified) scalar, scalar.within⟩
  | simple classified scalar =>
    rintro _ ⟨⟩
    exact ⟨rendered_simple (same ▸ classified) scalar, scalar.within⟩
  | enumeration classified isMember =>
    rintro _ ⟨⟩
    refine ⟨rendered_enumeration (same ▸ classified) isMember, ?_⟩
    apply within_of_parts
    · trivial
    · intro part isPart
      cases isPart
  | «structure» results classified _ aligned _ ih =>
    rintro _ ⟨⟩
    rw [same] at classified
    rcases resolveStructure_of_classify classified with ⟨resolved, members⟩
    rw [← members] at aligned
    have ofField (field : Member × MockValue) (isField : field ∈ present results) :=
      ih _ (mem_present.mp isField) field.2 rfl
    have typed := structureTyped_of_rendered resolved (mem_members_of_present aligned)
      fun field isField => (ofField field isField).1
    refine ⟨?_, within_of_parts typed ?_⟩
    · rcases typed with ⟨-, literals, -, ⟨given, typed⟩, -⟩
      exact ⟨_, _, classified, given, typed, .address typed⟩
    · intro part isPart
      rcases List.mem_map.mp isPart with ⟨field, isField, rfl⟩
      exact (ofField field isField).2
  | @list _ _ _ item _ results classified element _ _ _ ih =>
    rintro _ ⟨⟩
    rw [same] at classified element
    have ofItem (value : MockValue) (isItem : value ∈ results.filterMap id) :=
      ih (some value) (by simpa using isItem) value rfl
    have typed := listTyped_of_rendered classified element fun value isItem =>
      (ofItem value isItem).1
    refine ⟨?_, within_of_parts typed fun part isPart => (ofItem part isPart).2⟩
    rcases typed with ⟨-, -, -, literals, -, -, -, ⟨given, typed⟩, -⟩
    exact ⟨_, _, classified, given, typed, typed⟩
  | map classified _ _ valueIH keyIH =>
    rintro _ ⟨⟩
    rw [same] at classified
    rcases keyIH _ rfl with ⟨keyRendered, keyWithin⟩
    rcases valueIH _ rfl with ⟨valueRendered, valueWithin⟩
    have typed := mapTyped_of_rendered classified keyRendered valueRendered
    refine ⟨?_, within_of_parts typed ?_⟩
    · rcases typed with ⟨-, -, -, -, -, literals, -, -, -, -, ⟨given, typed⟩, -⟩
      exact ⟨_, _, classified, given, typed, typed⟩
    · intro part isPart
      simp only [MockValue.parts, List.flatMap_cons, List.flatMap_nil, List.append_nil,
        List.mem_cons, List.not_mem_nil, or_false] at isPart
      rcases isPart with rfl | rfl
      · exact keyWithin
      · exact valueWithin
  | emptyEnumeration | activeStructure | activeElement | withoutValue | withoutKey =>
    rintro _ ⟨⟩

theorem nodeTyped_of_ofStructure {mocks : Mocks} {id : ShapeId} (same : mocks.model = scope.model)
    (run : mocks.ofStructure id = .ok value) :
    ∀ node, Within node value → NodeTyped scope node := by
  rcases synthesized_of_ofStructure run with ⟨shape, _, resolved, rfl, results, aligned, rfl, parts⟩
  rw [same] at resolved
  have ofField (field : Member × MockValue) (isField : field ∈ present results) :=
    (parts _ (mem_present.mp isField)).rendered same field.2 rfl
  apply within_of_parts
  · exact structureTyped_of_rendered resolved (mem_members_of_present aligned)
      fun field isField => (ofField field isField).1
  · intro part isPart
    rcases List.mem_map.mp isPart with ⟨field, isField, rfl⟩
    exact (ofField field isField).2

/-- The literal of a synthesized structure has the declared types throughout: in every structure
of the instance each field is named as it is declared and has the declared type of the field, in
every list each item has the type of the element, and in every map each key and each value has the
type of the key and of the value.  Types are unique where no two enumerations share a constant. -/
theorem literals_have_declared_types
    {scope : Scope} {mocks : Mocks} {id : ShapeId} {value : MockValue}
    (same : mocks.model = scope.model)
    (run : mocks.ofStructure id = .ok value) :
    (∀ shape fields, Within (.structure shape fields) value →
      StructureTyped scope shape fields) ∧
    (∀ shape items, Within (.list shape items) value → ListTyped scope shape items) ∧
    (∀ shape entries, Within (.map shape entries) value → MapTyped scope shape entries) ∧
    ((∀ name first second, scope.Declares name first → scope.Declares name second →
        first = second) →
      ∀ expr first second, HasType scope.Declares expr first →
        HasType scope.Declares expr second → first = second) := by
  have nodes := nodeTyped_of_ofStructure same run
  refine ⟨?_, ?_, ?_, ?_⟩
  · intro shape fields within
    exact nodes _ within
  · intro shape items within
    exact nodes _ within
  · intro shape entries within
    exact nodes _ within
  · intro single expr first second typed alsoTyped
    exact typed.unique single alsoTyped

def Journal.readers : Scope :=
  { model := mocks.model, space := "example.library" }

open Journal in
theorem literals_have_declared_types_journal :
    mocks.ofStructure entryId = .ok sample ∧
      StructureTyped readers entryId fields ∧
      ListTyped readers timesId
        [.timestamp timestamp (some .timestamp), .timestamp timestamp (some .timestamp)] := by
  have same : mocks.model = readers.model := rfl
  rcases literals_have_declared_types same ofStructure_entry with ⟨structures, lists, -, -⟩
  refine ⟨ofStructure_entry, structures entryId fields .refl, lists timesId _ ?_⟩
  apply Relation.ReflTransGen.single
  simp [sample, fields, MockValue.parts]

end Mocks

end ShapeForge
