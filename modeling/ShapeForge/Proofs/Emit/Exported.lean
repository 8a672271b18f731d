import Mathlib.Data.List.Nodup
import Mathlib.Data.List.Perm.Subperm
import ShapeForge.Proofs.Emit.Comments
import ShapeForge.Proofs.Model.Operations
import ShapeForge.Proofs.Naming.Lines

/-!
# The exported names of a package

Before a package is built, `checkPackageNames` predicts the names that its files will declare.  The
names that the files of the package export are among the predicted names, each at most as often as
it was predicted.
-/

namespace ShapeForge.Emit

open Recording
open Code (Item exported Unbroken)
open Naming (StartsCapital)

section Emitted

variable {emitter : Emitter}

/-! ## Predicted names -/

theorem checkNames_eq_ok {space : String} {before declared : List Declared}
    (accepted : checkNames space before declared = .ok ()) :
    (declared.map (·.name)).Nodup ∧
      ∀ name ∈ declared.map (·.name), name ∉ before.map (·.name) := by
  induction declared generalizing before with
  | nil => simp
  | cons first rest ih =>
    rw [checkNames] at accepted
    split at accepted
    · cases accepted
    · rename_i fresh
      rcases ih accepted with ⟨distinct, apart⟩
      rw [List.find?_eq_none] at fresh
      constructor
      · refine List.nodup_cons.mpr ⟨?_, distinct⟩
        intro again
        exact apart first.name again List.mem_cons_self
      · intro name isName isBefore
        rcases List.mem_cons.mp isName with rfl | isRest
        · rcases List.mem_map.mp isBefore with ⟨other, isOther, same⟩
          exact fresh other isOther (beq_iff_eq.mpr same)
        · exact apart name isRest (List.mem_cons_of_mem _ isBefore)

/-- The names that are known before a package is built. -/
def predicted (contents : Contents) : List String :=
  (reserved ++ packageNames contents.shapes contents.services).map (·.name)

theorem nodup_predicted {contents : Contents} {space : String}
    (accepted : checkPackageNames space contents.shapes contents.services = .ok ()) :
    (predicted contents).Nodup := by
  rcases checkNames_eq_ok accepted with ⟨distinct, apart⟩
  rw [predicted, List.map_append]
  apply List.nodup_append.mpr
  refine ⟨by decide, distinct, ?_⟩
  rintro name isReserved other isDeclared rfl
  exact apart name isDeclared isReserved

theorem typeNames_subperm (shape : Shape) :
    (typeNames shape).Subperm ((shapeNames shape).map (·.name)) := by
  unfold typeNames shapeNames
  cases shape.body with
  | simple kind =>
    apply List.Sublist.subperm
    cases shape.traits.pattern?.isSome with
    | false => simp
    | true =>
      simp only [Bool.and_true, if_true, List.map_cons, List.map_nil]
      split
      · exact List.Sublist.refl _
      · exact List.sublist_append_left [_] [_]
  | enumeration numeric members =>
    apply List.Perm.subperm
    simp [Function.comp_def]
  | _ => simp

theorem serviceNames_perm (info : ServiceInfo) :
    (interfaceNames info ++ (handlerNames info ++ mockNames info)).Perm
      ((serviceNames info).map (·.name)) := by
  have mock : mockNames info = [mockName info.name, "New" ++ mockName info.name] := by
    rw [mockNames, ← constructorName_mockName]
    rfl
  have handler : handlerNames info =
      if info.hasRoutes then [handlerName info.name, "New" ++ handlerName info.name] else [] := by
    rw [handlerNames, ← constructorName_handlerName]
    rfl
  rw [interfaceNames, mock, handler, serviceNames, List.perm_iff_count]
  intro name
  cases info.service.version.isEmpty <;> cases info.hasRoutes <;>
    simp [List.count_cons] <;> omega

/-- Every exported name is predicted, and none is exported more often than it is predicted. -/
theorem fileNames_subperm (contents : Contents) :
    ([CodeFile.types, .service, .http, .mock, .validators].flatMap (fileNames contents)).Subperm
      (predicted contents) := by
  have types (shapes : List Shape) :
      (shapes.flatMap typeNames).Subperm ((shapes.flatMap shapeNames).map (·.name)) := by
    induction shapes with
    | nil => simp
    | cons shape rest ih =>
      rw [List.flatMap_cons, List.flatMap_cons, List.map_append]
      exact (typeNames_subperm shape).append ih
  have services : (contents.services.flatMap interfaceNames ++
      (contents.services.flatMap handlerNames ++ contents.services.flatMap mockNames)).Perm
      ((contents.services.flatMap serviceNames).map (·.name)) := by
    have joined := (List.flatMap_append_perm contents.services handlerNames mockNames).append_left
      (contents.services.flatMap interfaceNames)
    rw [List.map_flatMap]
    refine joined.trans ((List.flatMap_append_perm _ _ _).trans ?_)
    exact List.Perm.flatMap_left _ fun info _ => serviceNames_perm info
  have error : (fileNames contents .validators).Subperm [Naming.requiredErrorType] := by
    rw [fileNames]
    split <;> simp
  have all := (error.append (types contents.shapes)).append services.subperm
  rw [predicted, packageNames, List.map_append, List.map_append, ← List.append_assoc]
  have withUnit := (List.Subperm.refl [Naming.unitType]).append all
  refine List.Subperm.trans (List.Perm.subperm ?_) withUnit
  rw [List.perm_iff_count]
  intro name
  simp only [fileNames, List.flatMap_cons, List.flatMap_nil, List.count_append, List.count_cons,
    List.count_nil]
  omega

/-! ## Packages -/

theorem servicesOf_eq_ok
    {model : Model} {declared : List (Shape × Service)} {services : List ServiceInfo}
    (listed : servicesOf model declared = .ok services) :
    ∀ info ∈ services, info.name = Naming.declName info.shape.id ∧
      (info.shape, info.service) ∈ declared ∧
      model.serviceOperations info.service = .ok info.operations := by
  induction declared generalizing services with
  | nil =>
    cases listed
    simp
  | cons first rest ih =>
    rcases first with ⟨shape, service⟩
    rw [servicesOf] at listed
    rcases bind_eq_ok.mp listed with ⟨operations, areOperations, listed⟩
    rcases bind_eq_ok.mp listed with ⟨others, areOthers, listed⟩
    cases listed
    rw [List.forall_mem_cons]
    constructor
    · simpa using areOperations
    · intro info isOther
      rcases ih areOthers info isOther with ⟨named, isDeclared, areListed⟩
      exact ⟨named, List.mem_cons_of_mem _ isDeclared, areListed⟩

/-- What a package contains, once its names are accepted. -/
structure Accepted (emitter : Emitter) (contents : Contents) : Prop where
  services : servicesOf emitter.model (spaceServices emitter.model emitter.plan.space) =
    .ok contents.services
  shapes : contents.shapes =
    (Model.inSpace emitter.model.shapes emitter.plan.space).filter isData
  names : checkPackageNames emitter.plan.space contents.shapes contents.services = .ok ()

theorem ensures_contents : Ensures (contents emitter) (Accepted emitter) := by
  unfold contents
  by_cases crowded : emitter.settings.policy == .single &&
      (spaceServices emitter.model emitter.plan.space).length > 1
  · simp only [crowded, if_true]
    exact (ensures_throw (fun _ => False) _).bind fun _ impossible => impossible.elim
  · simp only [crowded]
    refine (ensures_check _).bind fun services listed => ?_
    refine (ensures_check _).bind fun _ accepted => ?_
    exact ensures_pure ⟨listed, rfl, accepted⟩

theorem Accepted.capital_shapes {contents : Contents} (accepted : Accepted emitter contents)
    (obtained : emitter.model.Obtained) :
    ∀ shape ∈ contents.shapes,
      StartsCapital (Naming.declName shape.id) ∧ isData shape = true := by
  intro shape isShape
  rw [accepted.shapes] at isShape
  rcases List.mem_filter.mp isShape with ⟨isListed, data⟩
  have placed := obtained.wellPlaced shape (List.mem_filter.mp isListed).1
  exact ⟨Naming.startsCapital_declName placed.wellFormed.isIdentifier_name, data⟩

theorem Accepted.mem_shapes {contents : Contents} (accepted : Accepted emitter contents) :
    ∀ info ∈ contents.services, info.shape ∈ emitter.model.shapes := by
  intro info isService
  rcases servicesOf_eq_ok accepted.services info isService with ⟨-, isDeclared, -⟩
  rcases List.mem_filterMap.mp isDeclared with ⟨shape, isListed, kept⟩
  split at kept
  · cases kept
    exact (List.mem_filter.mp isListed).1
  · cases kept

theorem Accepted.capital_services {contents : Contents} (accepted : Accepted emitter contents)
    (obtained : emitter.model.Obtained) :
    ∀ info ∈ contents.services, StartsCapital info.name := by
  intro info isService
  have placed := obtained.wellPlaced _ (accepted.mem_shapes info isService)
  rw [(servicesOf_eq_ok accepted.services info isService).1]
  exact Naming.startsCapital_declName placed.wellFormed.isIdentifier_name

/-- The aliases of packages were planned. -/
def Planned (plans : List PackagePlan) : Prop :=
  ∃ modulePath overrides spaces, plans = planPackages modulePath overrides spaces

theorem Accepted.mem_of_shapes {contents : Contents} {shape : Shape}
    (accepted : Accepted emitter contents) (isShape : shape ∈ contents.shapes) :
    shape ∈ emitter.model.shapes := by
  rw [accepted.shapes] at isShape
  exact (List.mem_filter.mp (List.mem_filter.mp isShape).1).1

theorem Accepted.mem_of_operations {contents : Contents} {info : ServiceInfo}
    (accepted : Accepted emitter contents) (isService : info ∈ contents.services) :
    ∀ item ∈ info.operations, item.1 ∈ emitter.model.shapes := by
  rcases servicesOf_eq_ok accepted.services info isService with ⟨-, -, areListed⟩
  exact Model.mem_shapes_of_serviceOperations areListed

theorem lined_of_obtained {model : Model} {shape : Shape} (obtained : model.Obtained)
    (isShape : shape ∈ model.shapes) :
    Lined shape := by
  have wellFormed := (obtained.wellPlaced shape isShape).wellFormed
  exact ⟨wellFormed.oneLine, Naming.oneLine_declName wellFormed.isIdentifier_name⟩

theorem Accepted.lined {contents : Contents} (accepted : Accepted emitter contents)
    (obtained : emitter.model.Obtained) (planned : Planned emitter.plans) :
    LinedContents emitter contents := by
  rcases planned with ⟨modulePath, overrides, spaces, plans⟩
  refine ⟨⟨?_, ?_⟩, ?_, ?_⟩
  · intro id shape resolved
    rcases Model.resolveStructure_eq_ok resolved with ⟨found, -⟩
    rw [← Model.id_of_lookup? found]
    exact (lined_of_obtained obtained (List.mem_of_find?_eq_some found)).name
  · intro space
    exact oneLine_packageOf plans _ space
  · intro shape isShape
    exact lined_of_obtained obtained (accepted.mem_of_shapes isShape)
  · intro info isService
    rcases servicesOf_eq_ok accepted.services info isService with ⟨named, -, -⟩
    refine ⟨lined_of_obtained obtained (accepted.mem_shapes info isService), named, ?_⟩
    intro item isOperation
    exact (lined_of_obtained obtained
      (accepted.mem_of_operations isService item isOperation)).name

/-- How the code of a file was written: under the name of the file, and, unless it is a test, with
the exported names of the file and with comments that no route breaks. -/
structure Written
    (emitter : Emitter) (contents : Contents) (file : CodeFile) (code : FileBody) : Prop where
  name : code.name = file.name
  items : ∀ items, Gives (file.items emitter contents) items → code.items = items
  exports : file ≠ .serviceTest → exported (code.items.getD []) = fileNames contents file
  unbroken : file ≠ .serviceTest → (∀ info ∈ contents.services, UnbrokenRoutes info) →
    Unbroken (code.items.getD [])

/-- A file of code is written under its name, with the code of the file. -/
theorem ensures_codeBody
    {contents : Contents} {file : CodeFile} {property : Option (List Item) → Prop}
    (items : Ensures (file.items emitter contents) property) :
    Ensures (codeBody emitter contents file) fun code =>
      code.name = file.name ∧ property code.items := by
  refine ensures_bind fun _ => ?_
  refine items.bind fun items holds => ?_
  refine ensures_bind fun recorded => ?_
  exact ensures_pure ⟨rfl, holds⟩

/-- A file of code keeps the body that was written for it. -/
theorem ensures_codeFile {contents : Contents} {file : CodeFile} {property : FileBody → Prop}
    (body : Ensures (codeBody emitter contents file) property) :
    Ensures (codeFile emitter contents file) fun written => property written.1 := by
  refine body.bind fun code holds => ?_
  split
  · exact ensures_pure holds
  · exact ensures_bind fun _ => ensures_pure holds

/-- A package consists of its comment and the files of code, as they were written for what it
contains. -/
theorem ensures_bodies {property : Contents → CodeFile → FileBody → Prop}
    (body : ∀ contents, Accepted emitter contents → ∀ file : CodeFile,
      Ensures (codeBody emitter contents file) (property contents file)) :
    Ensures (buildPackage emitter) fun built => ∃ contents files, Accepted emitter contents ∧
      built.2 = { name := docName, items := some (docItems emitter contents.services) } :: files ∧
      List.Forall₂ (property contents) CodeFile.all files := by
  refine ensures_contents.bind fun contents accepted => ?_
  refine ensures_bind fun docFile => ?_
  refine (ensures_each fun file _ => ensures_codeFile (body contents accepted file)).bind
    fun files written => ?_
  refine ensures_bind fun _ => ?_
  refine ensures_pure ⟨contents, files.map (·.1), accepted, rfl, ?_⟩
  simpa using written

/-- The files of code are written under their names, each with its code. -/
theorem ensures_files {property : Contents → CodeFile → Option (List Item) → Prop}
    (items : ∀ contents, Accepted emitter contents → ∀ file : CodeFile,
      Ensures (file.items emitter contents) (property contents file)) :
    Ensures (buildPackage emitter) fun built => ∃ contents files, Accepted emitter contents ∧
      built.2 = { name := docName, items := some (docItems emitter contents.services) } :: files ∧
      List.Forall₂ (fun file code => code.name = file.name ∧ property contents file code.items)
        CodeFile.all files := by
  apply ensures_bodies
  intro contents accepted file
  exact ensures_codeBody (items contents accepted file)

def exportedBy (bodies : List FileBody) : List String :=
  (bodies.filter (·.name != CodeFile.serviceTest.name)).flatMap fun file =>
    exported (file.items.getD [])

theorem exportedBy_written {contents : Contents} {files : List CodeFile} {bodies : List FileBody}
    (written : List.Forall₂ (Written emitter contents) files bodies) :
    exportedBy bodies = (files.filter (· != .serviceTest)).flatMap (fileNames contents) := by
  have sameTest (file : CodeFile) :
      (file.name != CodeFile.serviceTest.name) = (file != .serviceTest) := by
    cases file <;> decide
  unfold exportedBy
  induction written with
  | nil => rfl
  | @cons file code _ _ first _ ih =>
    rw [List.filter_cons, List.filter_cons, first.name, sameTest]
    by_cases isTest : file = .serviceTest
    · simpa [isTest] using ih
    · simp [isTest, first.exports isTest, ih]

theorem ensures_buildPackage (obtained : emitter.model.Obtained) (planned : Planned emitter.plans) :
    Ensures (buildPackage emitter) fun built => ∃ contents files, Accepted emitter contents ∧
      built.2 = { name := docName, items := some (docItems emitter contents.services) } :: files ∧
      List.Forall₂ (Written emitter contents) CodeFile.all files := by
  have items (contents : Contents) (accepted : Accepted emitter contents) (file : CodeFile) :
      Ensures (file.items emitter contents) fun items =>
        Written emitter contents file { name := file.name, items } := by
    intro record items succeeded
    constructor
    · rfl
    · intro given gives
      exact Except.ok.inj (succeeded.symm.trans (gives record))
    · intro noTest
      exact ensures_items (accepted.capital_shapes obtained) (accepted.capital_services obtained)
        noTest record items succeeded
    · intro noTest routes
      exact (accepted.lined obtained planned).ensures_unbroken_items noTest routes record items
        succeeded
  intro record built succeeded
  rcases ensures_files items record built succeeded with ⟨contents, files, accepted, same, written⟩
  refine ⟨contents, files, accepted, same, written.imp ?_⟩
  rintro file code ⟨named, holds⟩
  exact ⟨named, holds.items, holds.exports, holds.unbroken⟩

theorem exportedBy_doc (services : List ServiceInfo) (files : List FileBody) :
    exportedBy ({ name := docName, items := some (docItems emitter services) } :: files) =
      exportedBy files := by
  have notTest : (docName != CodeFile.serviceTest.name) = true := by decide
  unfold exportedBy
  rw [List.filter_cons, if_pos notTest, List.flatMap_cons, Option.getD_some, exported_docItems]
  rfl

/-! Code that cannot be formatted is kept as it is, so only its contents and its code can fail a
package. -/

theorem succeeds_formatted (name text : String) : Succeeds (formatted emitter name text) := by
  unfold formatted
  split
  · exact fun _ => ⟨_, rfl⟩
  · exact fun _ => ⟨_, rfl⟩

theorem succeeds_codeFile {contents : Contents} {file : CodeFile}
    (written : Succeeds (file.items emitter contents)) :
    Succeeds (codeFile emitter contents file) := by
  have body : Succeeds (codeBody emitter contents file) := by
    have reset : Succeeds Build.resetImports := fun _ => ⟨_, rfl⟩
    refine reset.bind (Ensures.trivial _) fun _ _ => ?_
    refine written.bind (Ensures.trivial _) fun items _ => ?_
    exact fun _ => ⟨_, rfl⟩
  refine body.bind (Ensures.trivial _) fun code _ => ?_
  split
  · exact fun _ => ⟨_, rfl⟩
  · refine (succeeds_formatted _ _).bind (Ensures.trivial _) fun _ _ => ?_
    exact fun _ => ⟨_, rfl⟩

theorem succeeds_buildPackage {declared : Contents} (gathered : Gives (contents emitter) declared)
    (written : ∀ file : CodeFile, Succeeds (file.items emitter declared)) :
    Succeeds (buildPackage emitter) := by
  refine gathered.succeeds.bind gathered.ensures ?_
  rintro _ rfl
  refine (succeeds_formatted _ _).bind (Ensures.trivial _) fun docFile _ => ?_
  have files := succeeds_each (fun file => succeeds_codeFile (written file)) CodeFile.all
  refine files.bind (Ensures.trivial _) fun files _ => ?_
  exact fun _ => ⟨_, rfl⟩

theorem emitPackage_fst (emitter : Emitter) :
    (emitPackage emitter).1 = ((buildPackage emitter).run {}).1 :=
  rfl

theorem exists_emitted {declared : Contents} (gathered : Gives (contents emitter) declared)
    (written : ∀ file : CodeFile, Succeeds (file.items emitter declared)) :
    ∃ package bodies, (emitPackage emitter).1 = .ok (package, bodies) := by
  rcases succeeds_buildPackage gathered written {} with ⟨⟨package, bodies⟩, emitted⟩
  exact ⟨package, bodies, emitted⟩

/-- What is gathered for a package is all that can be accepted. -/
theorem Accepted.eq_of_gives {contents declared : Contents} (accepted : Accepted emitter contents)
    (gathered : Gives (Emit.contents emitter) declared) :
    contents = declared := by
  have alsoAccepted := ensures_contents {} declared (gathered {})
  have services := Except.ok.inj (accepted.services.symm.trans alsoAccepted.services)
  have shapes := accepted.shapes.trans alsoAccepted.shapes.symm
  cases contents
  cases declared
  exact congrArg₂ Contents.mk services shapes

/-- A package with one service, which has no resources and so offers its own operations. -/
theorem gives_contents_single {info : ServiceInfo} {shapes : List Shape}
    (only : spaceServices emitter.model emitter.plan.space = [(info.shape, info.service)])
    (noResources : info.service.resources = [])
    (offered : emitter.model.addOperations [] info.service.operations = .ok info.operations)
    (named : Naming.declName info.shape.id = info.name)
    (data : (Model.inSpace emitter.model.shapes emitter.plan.space).filter isData = shapes)
    (distinct : checkPackageNames emitter.plan.space shapes [info] = .ok ()) :
    Gives (contents emitter) { services := [info], shapes } := by
  have operations : emitter.model.serviceOperations info.service = .ok info.operations := by
    rw [Model.serviceOperations, offered, noResources]
    simp [bind, Except.bind, Model.walkResources]
  have services : servicesOf emitter.model [(info.shape, info.service)] = .ok [info] := by
    rw [servicesOf, operations, named]
    rfl
  have gathered : Gives (Build.check (servicesOf emitter.model [(info.shape, info.service)]))
      [info] := by
    rw [services]
    exact fun _ => rfl
  have checked : Gives (Build.check (checkPackageNames emitter.plan.space shapes [info])) () := by
    rw [distinct]
    exact fun _ => rfl
  simp only [contents, only, data, List.length_singleton, Nat.lt_irrefl, decide_false,
    Bool.and_false, Bool.false_eq_true, if_false]
  exact gathered.bind (checked.bind (gives_pure _))

theorem nodup_of_subperm {names others : List String} (contained : names.Subperm others)
    (distinct : others.Nodup) :
    names.Nodup := by
  rw [List.nodup_iff_count_le_one] at distinct ⊢
  intro name
  exact (contained.count_le name).trans (distinct name)

/-- The files of an accepted package declare the exported names that its shapes and services call
for, each once, and all of them were predicted when the names were checked.  If no route has a line
break, nothing is declared in a comment: the lines of its text all are lines of a comment. -/
theorem exported_names_distinct
    {package : Package} {bodies : List FileBody}
    (obtained : emitter.model.Obtained)
    (planned : Planned emitter.plans)
    (emitted : (emitPackage emitter).1 = .ok (package, bodies)) :
    ∃ contents, Accepted emitter contents ∧
      exportedBy bodies =
        Naming.unitType :: contents.shapes.flatMap typeNames ++
          contents.services.flatMap interfaceNames ++
          contents.services.flatMap handlerNames ++
          contents.services.flatMap mockNames ++
          (if contents.structures.isEmpty then [] else [Naming.requiredErrorType]) ∧
      (exportedBy bodies).Nodup ∧
      (∀ name ∈ exportedBy bodies,
        name ∈ (reserved ++ packageNames contents.shapes contents.services).map (·.name)) ∧
      ((∀ info ∈ contents.services, UnbrokenRoutes info) →
        ∀ file ∈ bodies, file.name ≠ docName → file.name ≠ CodeFile.serviceTest.name →
          ∀ lines, .comment lines ∈ file.items.getD [] →
            Text.lines (Item.comment lines).text = lines.map ("//" ++ ·) ++ [""]) := by
  rcases ensures_buildPackage obtained planned {} (package, bodies) emitted with
    ⟨contents, files, accepted, rfl, written⟩
  have names := exportedBy_written written
  have contained := fileNames_subperm contents
  rw [exportedBy_doc, names]
  refine ⟨contents, accepted, ?_, ?_, ?_, ?_⟩
  · simp [CodeFile.all, fileNames]
  · exact nodup_of_subperm contained (nodup_predicted accepted.names)
  · intro name isExported
    exact contained.subset isExported
  · intro routes file isFile notDoc notTest lines isComment
    rcases List.mem_cons.mp isFile with rfl | isCode
    · exact absurd rfl notDoc
    · rcases exists_partner written.flip file isCode with ⟨source, -, fileWritten⟩
      have noTest : source ≠ .serviceTest := by
        rintro rfl
        exact notTest fileWritten.name
      exact (fileWritten.unbroken noTest routes).lines isComment

end Emitted

/-! A shop with a service that has a version and a route, and with an enumeration, a text with a
pattern and a structure.  Its route may be broken by a line that looks like a declaration. -/

namespace Shop

open ShapeForge.Document (Value)

def uri : Bool → String
  | false => "/open"
  | true => "/open\ntype Color int\n//"

def payload : Bool → String
  | false => "\x7b\"method\":\"GET\",\"uri\":\"/open\"\x7d"
  | true => "\x7b\"method\":\"GET\",\"uri\":\"/open\\ntype Color int\\n//\"\x7d"

variable (broken : Bool)

def document : Value :=
  .plainObject [("smithy", .plainText "2.0"), ("shapes", .plainObject
    [("shop#Color", .plainObject [("type", .plainText "enum"),
        ("members", .plainObject [("RED", .plainObject []), ("BLUE", .plainObject [])])]),
      ("shop#Sku", .plainObject [("type", .plainText "string"),
        ("traits", .plainObject [("smithy.api#pattern", .plainText "^[a-z]+$")])]),
      ("shop#Order", .plainObject [("type", .plainText "structure"), ("members", .plainObject [])]),
      ("shop#Open", .plainObject [("type", .plainText "operation"),
        ("traits", .plainObject [("smithy.api#http",
          .plainObject [("method", .plainText "GET"), ("uri", .plainText (uri broken))])])]),
      ("shop#Shop", .plainObject [("type", .plainText "service"), ("version", .plainText "1"),
        ("operations", .plainArray [.plainObject [("target", .plainText "shop#Open")]])])])]

def color : Shape where
  id := ⟨"shop#Color"⟩
  line := 1
  body := .enumeration false
    [{ name := "RED", value := "RED", number := 0 },
      { name := "BLUE", value := "BLUE", number := 1 }]

def sku : Shape where
  id := ⟨"shop#Sku"⟩
  line := 1
  traits := [⟨⟨"smithy.api#pattern"⟩, "\"^[a-z]+$\""⟩]
  body := .simple .string

def order : Shape where
  id := ⟨"shop#Order"⟩
  line := 1
  body := .structure []

def openShape : Shape where
  id := ⟨"shop#Open"⟩
  line := 1
  traits := [⟨⟨"smithy.api#http"⟩, payload broken⟩]
  body := .operation {}

def service : Service where
  version := "1"
  operations := [⟨"shop#Open"⟩]

def serviceShape : Shape where
  id := ⟨"shop#Shop"⟩
  line := 1
  body := .service service

def model : Model where
  version := "2.0"
  shapes := [color, sku, order, openShape broken, serviceShape]

def emitter : Emitter where
  settings := {}
  model := model broken
  plans := []
  plan := { space := "shop", name := "shop" }

def info : ServiceInfo where
  shape := serviceShape
  service := service
  name := "Shop"
  operations := [(openShape broken, {})]

def declared : Contents where
  services := [info broken]
  shapes := [color, sku, order]

set_option maxRecDepth 4000 in
theorem obtained_model : (emitter broken).model.Obtained := by
  have read : Load.model "shop.json" (document broken) = .ok (model broken) := by
    cases broken <;> rfl
  exact .loaded read

theorem planned_aliases : Planned (emitter broken).plans :=
  ⟨"", [], [], rfl⟩

theorem gives_contents : Gives (contents (emitter broken)) (declared broken) := by
  cases broken <;> exact gives_contents_single rfl rfl rfl rfl rfl rfl

def binding : HttpBinding where
  method := "GET"
  uri := uri broken

theorem http?_openShape : (openShape broken).traits.http? = .ok (some (binding broken)) := by
  apply eq_ok_of_toOption
  revert broken
  decide +kernel

theorem gives_routes :
    Gives (Build.each (httpOperations (emitter broken)) (declared broken).services)
      [[{ shape := openShape broken, operation := {}, method := "GET",
          binding := binding broken, params := [] }]] := by
  intro record
  simp only [Build.each, httpOperations, declared, info, httpOperation, http?_openShape]
  cases broken <;> rfl

def routeComment : Item :=
  .comment [" Open handles GET " ++ uri broken ++ "."]

theorem gives_httpItems :
    ∃ items, Gives (CodeFile.http.items (emitter broken) (declared broken)) (some items) ∧
      routeComment broken ∈ items := by
  cases broken with
  | false =>
    refine ⟨_, (gives_routes false).bind fun _ => rfl, ?_⟩
    decide
  | true =>
    refine ⟨_, (gives_routes true).bind fun _ => rfl, ?_⟩
    decide

theorem succeeds_items (file : CodeFile) :
    Succeeds (file.items (emitter broken) (declared broken)) := by
  cases file with
  | http =>
    rcases gives_httpItems broken with ⟨items, gives, -⟩
    exact gives.succeeds
  | _ => exact fun _ => ⟨_, rfl⟩

theorem emitted_package :
    ∃ package bodies, (emitPackage (emitter broken)).1 = .ok (package, bodies) :=
  exists_emitted (gives_contents broken) (succeeds_items broken)

theorem contents_eq {contents : Contents} (accepted : Accepted (emitter broken) contents) :
    contents = declared broken :=
  accepted.eq_of_gives (gives_contents broken)

end Shop

open Shop in
theorem exported_names_distinct_shop :
    ∃ package bodies, (emitPackage (Shop.emitter false)).1 = .ok (package, bodies) ∧
      exportedBy bodies =
        ["Unit", "Color", "ColorRed", "ColorBlue", "ColorValues", "Sku", "SkuPattern", "Order",
          "ShopVersion", "Shop", "ShopHTTPHandler", "NewShopHTTPHandler", "MockShop",
          "NewMockShop", "RequiredFieldError"] ∧
      (exportedBy bodies).Nodup ∧
      ∀ file ∈ bodies, file.name = "http.go" →
        ∀ lines, .comment lines ∈ file.items.getD [] →
          Text.lines (Item.comment lines).text = lines.map ("//" ++ ·) ++ [""] := by
  rcases emitted_package false with ⟨package, bodies, emitted⟩
  rcases exported_names_distinct (obtained_model false) (planned_aliases false) emitted with
    ⟨contents, accepted, names, distinct, -, comments⟩
  rw [contents_eq false accepted] at names comments
  have routes : ∀ info ∈ (declared false).services, UnbrokenRoutes info := by
    intro info isService item isOperation binding decoded
    rw [List.mem_singleton.mp isService] at isOperation
    rw [List.mem_singleton.mp isOperation, http?_openShape] at decoded
    cases decoded
    decide
  refine ⟨package, bodies, emitted, ?_, distinct, ?_⟩
  · rw [names]
    decide +kernel
  · intro file isFile isHttp
    apply comments routes file isFile
    · rw [isHttp]
      decide
    · rw [isHttp]
      decide

/-- The comment of a route quotes it as it is.  After a line break in the route the comment has
ended, and the package declares a type a second time. -/
theorem exported_names_repeated_shop :
    ∃ package bodies types http before after,
      (emitPackage (Shop.emitter true)).1 = .ok (package, bodies) ∧
      types ∈ bodies ∧ types.name = "types.go" ∧ "Color" ∈ exported (types.items.getD []) ∧
      http ∈ bodies ∧ http.name = "http.go" ∧
      http.body =
        some (before ++ "// Open handles GET /open\ntype Color int\n//.\n" ++ after) := by
  rcases Shop.emitted_package true with ⟨package, bodies, emitted⟩
  rcases ensures_buildPackage (Shop.obtained_model true) (Shop.planned_aliases true) {} _
    emitted with ⟨contents, files, accepted, isBody, written⟩
  rw [Shop.contents_eq true accepted] at written
  rcases List.forall₂_cons_left_iff.mp written with
    ⟨types, _, typesWritten, afterTypes, rfl⟩
  rcases List.forall₂_cons_left_iff.mp afterTypes with ⟨service, _, -, afterService, rfl⟩
  rcases List.forall₂_cons_left_iff.mp afterService with ⟨http, _, httpWritten, -, rfl⟩
  rcases Shop.gives_httpItems true with ⟨items, gives, isComment⟩
  rcases List.append_of_mem isComment with ⟨before, after, split⟩
  have body : http.body = some (Code.text before ++ (Shop.routeComment true).text ++
      Code.text after) := by
    rw [FileBody.body, httpWritten.items _ gives, split, Option.map_some, Code.text_insert]
  have color : "Color" ∈ fileNames (Shop.declared true) .types := by decide
  simp only at isBody
  refine ⟨package, bodies, types, http, Code.text before, Code.text after, emitted, ?_,
    typesWritten.name, ?_, ?_, httpWritten.name, body⟩
  · simp [isBody]
  · rwa [typesWritten.exports (by decide)]
  · simp [isBody]

end ShapeForge.Emit
