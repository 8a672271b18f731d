import ShapeForge.Proofs.Emit.Exported
import ShapeForge.Proofs.Model.Identifiers
import ShapeForge.Proofs.Naming.Fields

/-!
# The fields of structs and the methods of interfaces

Only the declarations of a package are checked for equal names.  The fields of a struct avoid the
methods of its type, but two of them have the same name if the names of their members have the same
words, and so do two methods of an interface.
-/

namespace ShapeForge.Emit

open Recording
open Code (Item)

/-! ## Declared fields and methods -/

/-- The text of a struct's field for a member. -/
def DeclaresField (shape : Shape) (member : Member) (text : String) : Prop :=
  ∃ type,
    text = (if member.traits.documentation.isEmpty then ""
      else Naming.docComment member.traits.documentation (Naming.memberField shape member) "\t") ++
      "\t" ++ Naming.memberField shape member ++ " " ++ type ++ " \x60" ++ fieldTag member ++
      "\x60\n"

/-- The definition of a struct with a field for every member of a structure, in order. -/
def IsStruct (shape : Shape) (definition : String) : Prop :=
  ∃ fields, List.Forall₂ (DeclaresField shape) shape.members fields ∧
    definition = "struct \x7b\n" ++ "".intercalate fields ++ "\x7d"

/-- The text of an interface's method for an operation. -/
def DeclaresMethod (item : Shape × Operation) (text : String) : Prop :=
  ∃ errors input output,
    text = "".intercalate
        ((shapeDoc item.1 (Naming.declName item.1.id)).map ("\t" ++ Code.commentLine ·)) ++
      errors ++ "\t" ++ Naming.declName item.1.id ++ "(ctx context.Context, input *" ++ input ++
      ") (*" ++ output ++ ", error)\n"

/-- The definition of an interface with a method for every operation of a service, in order. -/
def IsInterface (info : ServiceInfo) (definition : String) : Prop :=
  ∃ methods, List.Forall₂ DeclaresMethod info.operations methods ∧
    definition = "interface \x7b\n" ++ "\n".intercalate methods ++ "\x7d"

/-- A body of a package declares a type with such a definition. -/
def TypeDeclared
    (bodies : List FileBody)
    (file name : String)
    (isDefinition : String → Prop) : Prop :=
  ∃ body ∈ bodies, body.name = file ∧
    ∃ definition, .type name definition ∈ body.items.getD [] ∧ isDefinition definition

section Emitted

variable {emitter : Emitter}

theorem ensures_fieldText (shape : Shape) (member : Member) :
    Ensures (fieldText emitter shape member) fun field => DeclaresField shape member field.1 := by
  refine (Ensures.trivial _).bind ?_
  rintro ⟨typeText, type⟩ -
  exact Ensures.after_if (ensures_pure ⟨typeText, rfl⟩)

variable {shape : Shape} {members : List Member}

theorem ensures_structureItems (isStructure : shape.body = .structure members) :
    Ensures (structureItems emitter shape members) fun items =>
      ∃ definition, .type (Naming.declName shape.id) definition ∈ items ∧
        IsStruct shape definition := by
  refine (ensures_each fun member _ => ensures_fieldText shape member).bind fun fields declared => ?_
  refine ensures_pure ⟨_, ?_, fields.map (·.1), ?_, rfl⟩
  · simp [typeItems]
  · rwa [Shape.members_of_body isStructure, List.forall₂_map_right_iff]

/-- What the code of each shape has is part of the code of all. -/
theorem ensures_parts {property : Shape → List Item → Prop} {shapes : List Shape}
    (ofShape : ∀ shape ∈ shapes, Ensures (shapeItems emitter shape) (property shape)) :
    Ensures (typesBody emitter shapes) fun items =>
      ∀ shape ∈ shapes, ∃ part, part ⊆ items ∧ property shape part := by
  refine (ensures_each ofShape).bind fun declared written => ?_
  apply ensures_pure
  intro shape isShape
  rcases exists_partner written shape isShape with ⟨part, isPart, holds⟩
  refine ⟨part, fun item isItem => List.mem_append_right _ ?_, holds⟩
  exact List.mem_flatMap.mpr ⟨part, isPart, List.mem_cons_of_mem _ isItem⟩

theorem ensures_structs (shapes : List Shape) :
    Ensures (typesBody emitter shapes) fun items =>
      ∀ shape ∈ shapes, ∀ members, shape.body = .structure members →
        ∃ definition, .type (Naming.declName shape.id) definition ∈ items ∧
          IsStruct shape definition := by
  have ofShape (shape : Shape) : Ensures (shapeItems emitter shape) fun items =>
      ∀ members, shape.body = .structure members →
        ∃ definition, .type (Naming.declName shape.id) definition ∈ items ∧
          IsStruct shape definition := by
    intro record items succeeded members isStructure
    rw [shapeItems, isStructure] at succeeded
    exact ensures_structureItems isStructure record items succeeded
  intro record items succeeded shape isShape members isStructure
  rcases ensures_parts (fun shape _ => ofShape shape) record items succeeded shape isShape with
    ⟨part, isPart, holds⟩
  rcases holds members isStructure with ⟨definition, isDeclared, isStruct⟩
  exact ⟨definition, isPart isDeclared, isStruct⟩

theorem ensures_methodText (info : ServiceInfo) (item : Shape × Operation) :
    Ensures (methodText emitter info item) (DeclaresMethod item) := by
  refine (Ensures.trivial _).bind ?_
  rintro ⟨input, output⟩ -
  refine ensures_bind fun errors => ?_
  exact ensures_pure ⟨_, input, output, rfl⟩

theorem ensures_interfaces (services : List ServiceInfo) :
    Ensures (serviceBody emitter services) fun items =>
      ∀ info ∈ services, ∃ definition, .type info.name definition ∈ items ∧
        IsInterface info definition := by
  have ofService (info : ServiceInfo) : Ensures (interfaceItems emitter info) fun items =>
      ∃ definition, .type info.name definition ∈ items ∧ IsInterface info definition := by
    refine (ensures_each fun item _ => ensures_methodText info item).bind fun methods declared => ?_
    exact ensures_pure ⟨_, by simp, methods, declared, rfl⟩
  refine ensures_bind fun _ => ?_
  refine (ensures_each fun info _ => ofService info).bind fun declared written => ?_
  apply ensures_pure
  intro info isService
  rcases exists_partner written info isService with ⟨items, areItems, definition, isDeclared, holds⟩
  exact ⟨definition, List.mem_flatten.mpr ⟨items, areItems, isDeclared⟩, holds⟩

/-- What the code of a file declares: a struct for every structure, an interface for every
service. -/
def Declares (contents : Contents) (file : CodeFile) (items : Option (List Item)) : Prop :=
  match file with
  | .types => ∀ shape ∈ contents.structures,
      ∃ definition, .type (Naming.declName shape.id) definition ∈ items.getD [] ∧
        IsStruct shape definition
  | .service => ∀ info ∈ contents.services,
      ∃ definition, .type info.name definition ∈ items.getD [] ∧ IsInterface info definition
  | _ => True

theorem body_of_structures {contents : Contents} (isStructure : shape ∈ contents.structures) :
    shape ∈ contents.shapes ∧ ∃ members, shape.body = .structure members := by
  rcases List.mem_filter.mp isStructure with ⟨isShape, isKind⟩
  refine ⟨isShape, ?_⟩
  rw [Shape.kind] at isKind
  cases body : shape.body with
  | «structure» members => exact ⟨members, rfl⟩
  | _ => simp [body, ShapeBody.kind] at isKind

theorem ensures_declares (contents : Contents) (file : CodeFile) :
    Ensures (file.items emitter contents) (Declares contents file) := by
  cases file with
  | types =>
    refine (ensures_structs contents.shapes).bind fun items declared => ?_
    apply ensures_pure
    intro shape isStructure
    rcases body_of_structures isStructure with ⟨isShape, members, body⟩
    exact declared shape isShape members body
  | service =>
    rw [CodeFile.items, CodeFile.items.ofServices]
    by_cases empty : contents.services.isEmpty
    · rw [if_pos empty]
      apply ensures_pure
      intro info isService
      rw [List.isEmpty_iff.mp empty] at isService
      cases isService
    · rw [if_neg empty]
      refine (ensures_interfaces contents.services).bind fun items declared => ?_
      exact ensures_pure declared
  | _ => exact Ensures.trivial _

theorem typeDeclared_of_emitted {package : Package} {bodies : List FileBody}
    (emitted : (emitPackage emitter).1 = .ok (package, bodies)) :
    ∃ contents, Accepted emitter contents ∧
      (∀ shape ∈ contents.structures,
        TypeDeclared bodies "types.go" (Naming.declName shape.id) (IsStruct shape)) ∧
      ∀ info ∈ contents.services,
        TypeDeclared bodies "service.go" info.name (IsInterface info) := by
  rcases ensures_files (fun contents _ file => ensures_declares contents file) {}
    (package, bodies) emitted with ⟨contents, files, accepted, rfl, written⟩
  refine ⟨contents, accepted, ?_, ?_⟩
  · intro shape isStructure
    rcases exists_partner written .types (by decide) with ⟨code, isFile, named, declared⟩
    exact ⟨code, List.mem_cons_of_mem _ isFile, named, declared shape isStructure⟩
  · intro info isService
    rcases exists_partner written .service (by decide) with ⟨code, isFile, named, declared⟩
    exact ⟨code, List.mem_cons_of_mem _ isFile, named, declared info isService⟩

/-! ## Names that are told apart -/

theorem nodup_serviceOperations
    {model : Model} {service : Service} {found : List (Shape × Operation)}
    (listed : model.serviceOperations service = .ok found) :
    (found.map (·.1.id)).Nodup := by
  rcases model.serviceOperations_cases service with
    ⟨result, order, succeeded, -, gathered⟩ | ⟨fault, failed, -⟩
  · cases succeeded.symm.trans listed
    rw [gathered.ids_eq]
    exact Model.nodup_eraseDups _
  · cases failed.symm.trans listed

/-- Two ways to name items tell the same items apart if they agree on which items to name alike. -/
theorem nodup_map_congr {α β γ : Type} {items : List α} {name : α → β} {other : α → γ}
    (alike : ∀ first ∈ items, ∀ second ∈ items, name first = name second ↔
      other first = other second) :
    (items.map name).Nodup ↔ (items.map other).Nodup := by
  unfold List.Nodup
  rw [List.pairwise_map, List.pairwise_map]
  constructor
  · exact List.Pairwise.imp_of_mem fun isFirst isSecond differ same =>
      differ ((alike _ isFirst _ isSecond).mpr same)
  · exact List.Pairwise.imp_of_mem fun isFirst isSecond differ same =>
      differ ((alike _ isFirst _ isSecond).mp same)

theorem ascii_members (wellNamed : shape.WellNamed)
    (isStructure : shape.body = .structure members) :
    ∀ member ∈ shape.members, ∀ c ∈ member.name.toList, c.toNat < 128 := by
  intro member isMember
  have body := wellNamed.body
  rw [isStructure] at body
  rw [Shape.members_of_body isStructure] at isMember
  -- The name of a member is a part of its identifier.
  have named := body member isMember
  rw [← named.member]
  exact ShapeId.ascii_member named.id

/-- The fields of a struct differ exactly if the words of its members' names do. -/
theorem nodup_fields_iff (wellNamed : shape.WellNamed)
    (isStructure : shape.body = .structure members)
    (letters : ∀ member ∈ shape.members, Naming.startsWithLetter member.name = true) :
    (shape.members.map (Naming.memberField shape)).Nodup ↔
      (shape.members.map fun member => Naming.pascal member.name).Nodup := by
  have ascii := ascii_members wellNamed isStructure
  rw [Naming.nodup_memberField_iff]
  apply nodup_map_congr
  intro first isFirst second isSecond
  exact Naming.typeName_inj (ascii first isFirst) (letters first isFirst)
    (ascii second isSecond) (letters second isSecond)

/-- The methods of an interface differ exactly if the words of its operations' names do. -/
theorem nodup_methods_iff {operations : List (Shape × Operation)}
    (wellFormed : ∀ item ∈ operations, item.1.id.WellFormed)
    (letters : ∀ item ∈ operations, Naming.startsWithLetter item.1.id.name = true)
    (noSubstitute : ∀ item ∈ operations,
      Naming.typeName item.1.id.name ∉ Naming.substitutes) :
    (operations.map fun item => Naming.declName item.1.id).Nodup ↔
      (operations.map fun item => Naming.pascal item.1.id.name).Nodup := by
  have ascii (item : Shape × Operation) (isItem : item ∈ operations) :=
    Naming.ascii_of_isIdentifier (wellFormed item isItem).isIdentifier_name
  apply nodup_map_congr
  intro first isFirst second isSecond
  rw [Naming.declName_inj (noSubstitute first isFirst) (noSubstitute second isSecond)]
  exact Naming.typeName_inj (ascii first isFirst) (letters first isFirst)
    (ascii second isSecond) (letters second isSecond)

/-- What keeps the members of emitted types apart.  Every struct has its fields named by
`Naming.memberField`, and none of them like a method of the struct; they differ exactly if the
exported names of the members do, which is to say that the words of the members' names do.  Every
interface has its methods named by `Naming.declName`; the operations differ, but their methods do
exactly if the words of the operations' names differ. -/
theorem fields_and_methods_of_package
    {package : Package} {bodies : List FileBody}
    (obtained : emitter.model.Obtained)
    (emitted : (emitPackage emitter).1 = .ok (package, bodies)) :
    ∃ contents, Accepted emitter contents ∧
      (∀ shape ∈ contents.structures,
        TypeDeclared bodies "types.go" (Naming.declName shape.id) (IsStruct shape) ∧
        (∀ member ∈ shape.members,
          Naming.memberField shape member ∉ Naming.structMethods shape) ∧
        ((shape.members.map (Naming.memberField shape)).Nodup ↔
          (shape.members.map fun member => Naming.fieldName member.name).Nodup) ∧
        ((∀ member ∈ shape.members, Naming.startsWithLetter member.name = true) →
          ((shape.members.map (Naming.memberField shape)).Nodup ↔
            (shape.members.map fun member => Naming.pascal member.name).Nodup))) ∧
      ∀ info ∈ contents.services,
        emitter.model.serviceOperations info.service = .ok info.operations ∧
        TypeDeclared bodies "service.go" info.name (IsInterface info) ∧
        (info.operations.map (·.1.id)).Nodup ∧
        ((∀ item ∈ info.operations, Naming.startsWithLetter item.1.id.name = true ∧
            Naming.typeName item.1.id.name ∉ Naming.substitutes) →
          ((info.operations.map fun item => Naming.declName item.1.id).Nodup ↔
            (info.operations.map fun item => Naming.pascal item.1.id.name).Nodup)) := by
  rcases typeDeclared_of_emitted emitted with ⟨contents, accepted, structs, interfaces⟩
  refine ⟨contents, accepted, ?_, ?_⟩
  · intro shape isStructure
    rcases body_of_structures isStructure with ⟨isShape, members, body⟩
    have wellNamed := obtained.wellNamed shape (accepted.mem_of_shapes isShape)
    exact ⟨structs shape isStructure, fun _ => Naming.memberField_not_mem,
      Naming.nodup_memberField_iff shape, nodup_fields_iff wellNamed body⟩
  · intro info isService
    rcases servicesOf_eq_ok accepted.services info isService with ⟨-, -, listed⟩
    refine ⟨listed, interfaces info isService, nodup_serviceOperations listed, ?_⟩
    intro plain
    refine nodup_methods_iff ?_ (fun item isItem => (plain item isItem).1)
      fun item isItem => (plain item isItem).2
    intro item isItem
    exact (obtained.wellNamed item.1 (accepted.mem_of_operations isService item isItem)).id

end Emitted

/-! A stall whose price has two members, and whose service has an operation of its own and one of
a depot.  The members may have names with the same words, and so may the operations. -/

namespace Stall

open ShapeForge.Document (Value)

def second : Bool → String
  | true => "unitPrice"
  | false => "currency"

def away : Bool → String
  | true => "depot#Open"
  | false => "depot#Close"

variable (alike : Bool)

def document : Value :=
  .plainObject [("smithy", .plainText "2.0"), ("shapes", .plainObject
    [("stall#Price", .plainObject [("type", .plainText "structure"),
        ("members", .plainObject [("unit_price", .plainReference "smithy.api#Integer"),
          (second alike, .plainReference "smithy.api#String")])]),
      ("stall#Open", .plainObject [("type", .plainText "operation")]),
      (away alike, .plainObject [("type", .plainText "operation")]),
      ("stall#Stall", .plainObject [("type", .plainText "service"),
        ("operations", .plainArray
          [.plainReference "stall#Open", .plainReference (away alike)])])])]

def price : Shape where
  id := ⟨"stall#Price"⟩
  line := 1
  body := .structure
    [{ name := "unit_price", container := ⟨"stall#Price"⟩, target := ⟨"smithy.api#Integer"⟩,
       line := 1 },
      { name := second alike, container := ⟨"stall#Price"⟩, target := ⟨"smithy.api#String"⟩,
        line := 1 }]

def operation (id : String) : Shape where
  id := ⟨id⟩
  line := 1
  body := .operation {}

def service : Service where
  operations := [⟨"stall#Open"⟩, ⟨away alike⟩]

def serviceShape : Shape where
  id := ⟨"stall#Stall"⟩
  line := 1
  body := .service (service alike)

def model : Model where
  version := "2.0"
  shapes := [price alike, operation "stall#Open", operation (away alike), serviceShape alike]

def emitter : Emitter where
  settings := {}
  model := model alike
  plans := []
  plan := { space := "stall", name := "stall" }

def info : ServiceInfo where
  shape := serviceShape alike
  service := service alike
  name := "Stall"
  operations := [(operation "stall#Open", {}), (operation (away alike), {})]

def declared : Contents where
  services := [info alike]
  shapes := [price alike]

theorem price_mem : price alike ∈ (declared alike).structures :=
  List.mem_filter.mpr ⟨List.mem_singleton_self _, rfl⟩

theorem info_mem : info alike ∈ (declared alike).services :=
  List.mem_singleton_self _

theorem obtained_model : (emitter alike).model.Obtained := by
  have read : Load.model "stall.json" (document alike) = .ok (model alike) := by
    cases alike <;> rfl
  exact .loaded read

theorem gives_contents : Gives (contents (emitter alike)) (declared alike) := by
  cases alike <;> exact gives_contents_single rfl rfl rfl rfl rfl rfl

theorem succeeds_items (file : CodeFile) :
    Succeeds (file.items (emitter alike) (declared alike)) := by
  cases alike <;> cases file <;> exact fun _ => ⟨_, rfl⟩

theorem emitted_package :
    ∃ package bodies, (emitPackage (emitter alike)).1 = .ok (package, bodies) :=
  exists_emitted (gives_contents alike) (succeeds_items alike)

theorem contents_eq {contents : Contents} (accepted : Accepted (emitter alike) contents) :
    contents = declared alike :=
  accepted.eq_of_gives (gives_contents alike)

end Stall

open Stall in
theorem fields_and_methods_of_package_stall :
    ∃ package bodies, (emitPackage (emitter false)).1 = .ok (package, bodies) ∧
      TypeDeclared bodies "types.go" "Price" (IsStruct (price false)) ∧
      ((price false).members.map (Naming.memberField (price false))).Nodup ∧
      TypeDeclared bodies "service.go" "Stall" (IsInterface (info false)) ∧
      ((info false).operations.map fun item => Naming.declName item.1.id).Nodup := by
  rcases emitted_package false with ⟨package, bodies, emitted⟩
  rcases fields_and_methods_of_package (obtained_model false) emitted with
    ⟨contents, accepted, structs, interfaces⟩
  obtain rfl := contents_eq false accepted
  rcases structs (price false) (price_mem false) with ⟨isStruct, -, -, fields⟩
  rcases interfaces (info false) (info_mem false) with ⟨-, isInterface, -, methods⟩
  refine ⟨package, bodies, emitted, isStruct, ?_, isInterface, ?_⟩
  · exact (fields (by decide)).mpr (by decide)
  · exact (methods (by decide)).mpr (by decide)

open Stall in
/-- Members and operations that are told apart, with fields and methods that are not. -/
theorem fields_and_methods_alike_stall :
    (emitter true).model.Obtained ∧
    ∃ package bodies, (emitPackage (emitter true)).1 = .ok (package, bodies) ∧
      TypeDeclared bodies "types.go" "Price" (IsStruct (price true)) ∧
      ((price true).members.map (·.name)).Nodup ∧
      ¬((price true).members.map (Naming.memberField (price true))).Nodup ∧
      TypeDeclared bodies "service.go" "Stall" (IsInterface (info true)) ∧
      ((info true).operations.map (·.1.id)).Nodup ∧
      ¬((info true).operations.map fun item => Naming.declName item.1.id).Nodup := by
  rcases emitted_package true with ⟨package, bodies, emitted⟩
  rcases typeDeclared_of_emitted emitted with ⟨contents, accepted, structs, interfaces⟩
  obtain rfl := contents_eq true accepted
  exact ⟨obtained_model true, package, bodies, emitted, structs (price true) (price_mem true),
    by decide, by decide, interfaces (info true) (info_mem true), by decide, by decide⟩

end ShapeForge.Emit
