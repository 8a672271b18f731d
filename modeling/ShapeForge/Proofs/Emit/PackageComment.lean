import ShapeForge.Proofs.Dependencies
import ShapeForge.Proofs.Emit.Exported

/-!
# Text in the comments of a package

The package comment quotes names, documentation, versions and dependencies, and the comment of a
handler's method quotes a route.  Documentation is cut into lines, and names and dependencies have
no line breaks.  The version of a service and a route are quoted as they are: the package comment
stays a comment exactly if no version leaves it, and the comment of a route takes as many lines as
the route has.
-/

namespace ShapeForge.Emit

open Recording
open Code (Item IsComment Contained)
open Text (OneLine WholeLines)

/-! ## Plans -/

theorem oneLine_name_planOne
    (modulePath : String) (overrides : List (String × String)) (taken : List String)
    (space : String) :
    OneLine (planOne modulePath overrides taken space).name := by
  unfold planOne
  cases override? overrides space with
  | none =>
    dsimp only
    exact Naming.oneLine_packageName space
  | some path =>
    dsimp only
    exact Naming.oneLine_packageName (suggestedName path)

/-- What a package is emitted from: a model that documents give, a plan for one of its namespaces,
and the dependencies that were declared and resolved. -/
structure Prepared (emitter : Emitter) : Prop where
  obtained : emitter.model.Obtained
  planned : ∃ modulePath overrides,
    emitter.plans = planPackages modulePath overrides emitter.model.namespaces
  isPlan : emitter.plan ∈ emitter.plans
  dependencies : emitter.dependencies.Obtained

section Emitted

variable {emitter : Emitter} {contents : Contents}

theorem Prepared.plans (prepared : Prepared emitter) : Planned emitter.plans := by
  rcases prepared.planned with ⟨modulePath, overrides, plans⟩
  exact ⟨modulePath, overrides, _, plans⟩

theorem Prepared.oneLine_plan (prepared : Prepared emitter) :
    OneLine emitter.plan.name ∧ OneLine emitter.plan.space := by
  rcases prepared.planned with ⟨modulePath, overrides, plans⟩
  have isPlan := prepared.isPlan
  rw [plans] at isPlan
  rcases planOne_of_mem isPlan with ⟨taken, space, isSpace, same⟩
  rw [same]
  exact ⟨oneLine_name_planOne _ _ _ _, prepared.obtained.oneLine_of_namespaces isSpace⟩

/-! ## The package comment -/

theorem contained_commentLines (text : String) : ∀ line ∈ commentLines text, Contained line := by
  have ofLines := oneLine_docLines text
  unfold commentLines
  cases lines : Naming.docLines text with
  | nil => simp
  | cons first rest =>
    rw [lines] at ofLines
    intro line isLine
    apply Code.contained_of_oneLine
    rcases List.mem_cons.mp isLine with rfl | isLine
    · decide
    · rcases List.mem_map.mp isLine with ⟨written, isWritten, rfl⟩
      exact oneLine_spaced (ofLines written isWritten)

/-- Of what the comment says about a service, only the version may leave it. -/
theorem contained_serviceLines {info : ServiceInfo} (oneLine : OneLine info.name) :
    (∀ line ∈ serviceLines info, Contained line) ↔ Contained info.service.version := by
  have heading : Contained (" # " ++ info.name) :=
    Code.contained_of_oneLine (OneLine.append (by decide) oneLine)
  have documentation := contained_commentLines info.shape.traits.documentation
  have blank : Contained "" := Code.contained_of_oneLine (by decide)
  have version := Code.contained_append (show OneLine " Version: " by decide) info.service.version
  unfold serviceLines
  simp only [List.forall_mem_append, List.forall_mem_cons, heading, blank, version, List.not_mem_nil,
    IsEmpty.forall_iff, implies_true, and_true, true_and]
  exact and_iff_right documentation

theorem contained_dependencyLines {table : Dependencies} (lined : table.Lined) (space : String) :
    ∀ line ∈ dependencyLines space table, Contained line := by
  unfold dependencyLines
  cases kept : table.entries.filter (·.1 != space) with
  | nil => simp
  | cons first rest =>
    have headings : ∀ line ∈ ["", " # Dependencies", ""], OneLine line := by decide
    intro line isLine
    apply Code.contained_of_oneLine
    rcases List.mem_append.mp isLine with isHeading | isEntry
    · exact headings line isHeading
    · rcases List.mem_map.mp isEntry with ⟨⟨other, version⟩, isListed, rfl⟩
      rw [← kept] at isListed
      rcases lined _ (List.mem_filter.mp isListed).1 with ⟨ofSpace, ofVersion⟩
      refine OneLine.append ((OneLine.append (by decide) ofSpace).append (by decide)) ?_
      cases version with
      | none => decide
      | some version => exact ofVersion version rfl

/-- The comment that precedes the package clause. -/
def packageComment (emitter : Emitter) (services : List ServiceInfo) : List String :=
  [" Package " ++ emitter.plan.name ++ " contains the declarations generated from the",
    " " ++ emitter.plan.space ++ " namespace."] ++
    services.flatMap serviceLines ++ dependencyLines emitter.plan.space emitter.dependencies

theorem contained_packageComment
    (prepared : Prepared emitter) (accepted : Accepted emitter contents) :
    (∀ line ∈ packageComment emitter contents.services, Contained line) ↔
      ∀ info ∈ contents.services, Contained info.service.version := by
  rcases prepared.oneLine_plan with ⟨ofName, ofSpace⟩
  have lined := accepted.lined prepared.obtained prepared.plans
  have heading : Contained
      (" Package " ++ emitter.plan.name ++ " contains the declarations generated from the") :=
    Code.contained_of_oneLine ((OneLine.append (by decide) ofName).append (by decide))
  have space : Contained (" " ++ emitter.plan.space ++ " namespace.") :=
    Code.contained_of_oneLine ((OneLine.append (by decide) ofSpace).append (by decide))
  have dependencies := contained_dependencyLines prepared.dependencies.lined emitter.plan.space
  have ofServices : (∀ line ∈ contents.services.flatMap serviceLines, Contained line) ↔
      ∀ info ∈ contents.services, Contained info.service.version := by
    rw [List.forall_mem_flatMap]
    refine forall_congr' fun info => imp_congr_right fun isService => ?_
    exact contained_serviceLines (lined.services info isService).oneLine_name
  rw [packageComment, List.forall_mem_append, List.forall_mem_append, ofServices]
  simp only [List.forall_mem_cons, heading, space, List.not_mem_nil, IsEmpty.forall_iff,
    implies_true, and_true, true_and]
  exact and_iff_left dependencies

/-- The package comment is followed by the package clause and nothing else. -/
theorem lines_docItems (oneLine : OneLine emitter.plan.name) (services : List ServiceInfo) :
    Text.lines (Code.text (docItems emitter services)) =
      fileHeader.flatMap (fun line => Text.lines ("//" ++ line)) ++ [""] ++
        (packageComment emitter services).flatMap (fun line => Text.lines ("//" ++ line)) ++
        ["package " ++ emitter.plan.name, ""] := by
  have clause : OneLine ("package " ++ emitter.plan.name) :=
    OneLine.append (by decide) oneLine
  have ending : Text.lines (Code.text [.package emitter.plan.name]) =
      ["package " ++ emitter.plan.name, ""] := by
    have package : (Item.package emitter.plan.name).text =
        "package " ++ emitter.plan.name ++ "\n" := rfl
    have nothing : Code.text [] = "" := rfl
    rw [Code.text_cons, package, nothing, Text.lines_append_break, clause.lines_eq]
    rfl
  have items : docItems emitter services =
      [.comment fileHeader, .blank, .comment (packageComment emitter services),
        .package emitter.plan.name] := rfl
  have blank : Item.blank.text = "" ++ "\n" := rfl
  rw [items, Code.text_cons, Code.lines_comment_append, Code.text_cons, blank,
    Text.lines_append_break, Code.text_cons, Code.lines_comment_append, ending]
  simp only [List.append_assoc]
  rfl

/-! ## Routes -/

/-- What the comment of a handler's method says. -/
def routeLine (id : ShapeId) (verb uri : String) : String :=
  " " ++ Naming.declName id ++ " handles " ++ verb ++ " " ++ uri ++ "."

/-- The comment of a route has as many lines as the route. -/
theorem length_lines_routeLine {id : ShapeId} {verb : String}
    (ofName : OneLine (Naming.declName id)) (ofVerb : OneLine verb) (uri : String) :
    (Text.lines ("//" ++ routeLine id verb uri)).length = (Text.lines uri).length := by
  have name : (Naming.declName id).toList.count '\n' = 0 := List.count_eq_zero.mpr ofName
  have method : verb.toList.count '\n' = 0 := List.count_eq_zero.mpr ofVerb
  have words : "//".toList.count '\n' = 0 ∧ " ".toList.count '\n' = 0 ∧
      " handles ".toList.count '\n' = 0 ∧ ".".toList.count '\n' = 0 := by
    decide
  rw [Text.length_lines, Text.length_lines, routeLine]
  simp only [String.toList_append, List.count_append, name, method, words]
  omega

/-- An operation with the route that its shape is bound to. -/
structure Routed (shape : Shape) (binding : HttpBinding) (bound : HttpOperation) : Prop where
  ofShape : bound.shape = shape
  byBinding : bound.binding = binding
  method : Route.normalizeMethod shape.id binding.method = .ok bound.method

theorem ensures_routed (item : Shape × Operation) :
    Ensures (httpOperation emitter item) fun found => ∀ binding,
      item.1.traits.http? = .ok (some binding) → ∃ bound, found = some bound ∧
        Routed item.1 binding bound := by
  unfold httpOperation
  refine (ensures_check _).bind fun decoded isDecoded => ?_
  cases decoded with
  | none =>
    apply ensures_pure
    intro binding isBound
    cases isDecoded.symm.trans isBound
  | some given =>
    refine (ensures_check _).bind fun method normalized => ?_
    refine ensures_bind fun params => ?_
    apply ensures_pure
    intro binding isBound
    cases isDecoded.symm.trans isBound
    exact ⟨_, rfl, rfl, rfl, normalized⟩

theorem ensures_routedAll (info : ServiceInfo) :
    Ensures (httpOperations emitter info) fun found => ∀ item ∈ info.operations, ∀ binding,
      item.1.traits.http? = .ok (some binding) → ∃ bound ∈ found, Routed item.1 binding bound := by
  refine (ensures_each fun item _ => ensures_routed item).bind fun operations matched => ?_
  apply ensures_pure
  intro item isOperation binding isBound
  rcases exists_partner matched item isOperation with ⟨found, isFound, ofItem⟩
  rcases ofItem binding isBound with ⟨bound, rfl, routed⟩
  exact ⟨bound, List.mem_filterMap.mpr ⟨some bound, isFound, rfl⟩, routed⟩

def methodComment (bound : HttpOperation) : Item :=
  .comment [routeLine bound.shape.id bound.method bound.binding.uri]

theorem ensures_methodComment (handler : String) (bound : HttpOperation) :
    Ensures (operationItems emitter handler bound) fun items => methodComment bound ∈ items := by
  refine ensures_bind fun types => ?_
  apply ensures_pure
  apply List.mem_append_right
  exact List.mem_cons_of_mem _ List.mem_cons_self

theorem ensures_methodComments (info : ServiceInfo) (operations : List HttpOperation) :
    Ensures (handlerItems emitter info operations) fun items =>
      ∀ bound ∈ operations, methodComment bound ∈ items := by
  refine ensures_bind fun routes => ?_
  refine (ensures_each fun bound _ => ensures_methodComment _ bound).bind fun methods matched => ?_
  apply ensures_pure
  intro bound isBound
  rcases exists_partner matched bound isBound with ⟨items, areItems, isComment⟩
  apply List.mem_append_left
  apply List.mem_append_right
  exact List.mem_flatten_of_mem areItems isComment

/-- The handlers of a package hold those of every service that has operations with routes. -/
theorem ensures_handlers {found : ServiceInfo → List HttpOperation → Prop}
    {written : ServiceInfo → List HttpOperation → List Item → Prop}
    (operations : ∀ info, Ensures (httpOperations emitter info) (found info))
    (handlers : ∀ info operations,
      Ensures (handlerItems emitter info operations) (written info operations))
    (services : List ServiceInfo) :
    Ensures (httpBody emitter services) fun body => ∀ info ∈ services, ∃ operations,
      found info operations ∧ (operations ≠ [] → ∃ items own, body = some items ∧
        written info operations own ∧ own ⊆ items) := by
  unfold httpBody
  refine (ensures_each fun info _ => operations info).bind fun bound matched => ?_
  split
  · next unrouted =>
      apply ensures_pure
      intro info isService
      rcases exists_partner matched info isService with ⟨operations, areBound, areFound⟩
      refine ⟨operations, areFound, fun routed => absurd ?_ routed⟩
      exact List.isEmpty_iff.mp (List.all_eq_true.mp unrouted operations areBound)
  · refine ensures_bind fun _ => ?_
    refine (ensures_each fun routed _ => handlers routed.1 routed.2).bind fun all handled => ?_
    apply ensures_pure
    intro info isService
    rcases exists_mem_zip matched info isService with ⟨operations, isPair, areFound⟩
    refine ⟨operations, areFound, fun routed => ?_⟩
    have isKept : (info, operations) ∈ (services.zip bound).filter (!·.2.isEmpty) := by
      rw [List.mem_filter]
      exact ⟨isPair, by simpa using routed⟩
    rcases exists_partner handled _ isKept with ⟨own, areHandlers, areWritten⟩
    refine ⟨_, own, rfl, areWritten, fun item isItem => ?_⟩
    exact List.mem_append_left _ (List.mem_flatten_of_mem areHandlers isItem)

/-- The handlers of a package have a commented method for every operation that is bound to a
route. -/
theorem ensures_routeComments (services : List ServiceInfo) :
    Ensures (httpBody emitter services) fun items => ∀ info ∈ services, ∀ item ∈ info.operations,
      ∀ binding, item.1.traits.http? = .ok (some binding) →
        ∃ written bound, items = some written ∧ Routed item.1 binding bound ∧
          methodComment bound ∈ written := by
  intro record body succeeded info isService item isOperation binding isBound
  rcases ensures_handlers ensures_routedAll ensures_methodComments services record body succeeded
    info isService with ⟨operations, routes, handlers⟩
  rcases routes item isOperation binding isBound with ⟨bound, isFound, routed⟩
  rcases handlers (List.ne_nil_of_mem isFound) with ⟨items, own, areItems, comments, within⟩
  exact ⟨items, bound, areItems, routed, within (comments bound isFound)⟩

/-! ## Files -/

theorem wholeLines_importBlock (imports : Imports) : WholeLines (importBlock imports) := by
  unfold importBlock
  split
  · exact Text.wholeLines_empty
  · have ending : ")\n\n" = ")\n" ++ "\n" := rfl
    rw [ending, ← String.append_assoc]
    exact Text.wholeLines_break _

/-- The lines of the comment of a route stand together in the file of the handlers. -/
theorem lines_assemble {items : List Item} {line : String}
    (isComment : .comment [line] ∈ items) (package : String) (imports : Imports) :
    ∃ above below, Text.lines (assemble package imports (Code.text items)) =
      above ++ Text.lines ("//" ++ line) ++ below :=
  Code.lines_of_comment_mem isComment
    ((Code.wholeLines_text _).append (wholeLines_importBlock imports))

theorem ensures_commented (contents : Contents) (file : CodeFile) :
    Ensures (file.items emitter contents) fun items => file = .http →
      ∀ info ∈ contents.services, ∀ item ∈ info.operations, ∀ binding,
        item.1.traits.http? = .ok (some binding) →
        ∃ written bound, items = some written ∧ Routed item.1 binding bound ∧
          methodComment bound ∈ written := by
  by_cases isHttp : file = .http
  · subst isHttp
    intro record items succeeded _
    exact ensures_routeComments contents.services record items succeeded
  · exact fun _ _ _ http => absurd http isHttp

/-- An emitted package has its comment, and for every operation that is bound to a route it has the
comment of the method that handles it. -/
theorem comments_of_emitted {package : Package} {bodies : List FileBody}
    (emitted : (emitPackage emitter).1 = .ok (package, bodies)) :
    ∃ contents, Accepted emitter contents ∧
      { name := docName, items := some (docItems emitter contents.services) } ∈ bodies ∧
      ∀ info ∈ contents.services, ∀ item ∈ info.operations, ∀ binding,
        item.1.traits.http? = .ok (some binding) →
        ∃ http ∈ bodies, http.name = CodeFile.http.name ∧ ∃ text verb above below,
          http.body = some text ∧
          Route.normalizeMethod item.1.id binding.method = .ok verb ∧
          Text.lines (assemble emitter.plan.name http.imports text) =
            above ++ Text.lines ("//" ++ routeLine item.1.id verb binding.uri) ++ below := by
  rcases ensures_files (fun contents _ file => ensures_commented contents file) {} (package, bodies)
    emitted with
    ⟨contents, files, accepted, rfl, written⟩
  refine ⟨contents, accepted, List.mem_cons_self, ?_⟩
  intro info isService item isOperation binding isBound
  rcases exists_partner written .http (by decide) with ⟨http, isFile, named, comments⟩
  rcases comments rfl info isService item isOperation binding isBound with
    ⟨items, bound, areItems, routed, isComment⟩
  have body : http.body = some (Code.text items) := by
    rw [FileBody.body, areItems, Option.map_some]
  rw [methodComment, routed.ofShape, routed.byBinding] at isComment
  rcases lines_assemble isComment emitter.plan.name http.imports with ⟨above, below, whole⟩
  exact ⟨http, List.mem_cons_of_mem _ isFile, named, _, bound.method, above, below, body,
    routed.method, whole⟩

/-- The package comment of an emitted package consists of blank lines and comments, and is followed
by the package clause and nothing else, exactly if no version of a service has a further line that
is neither blank nor a comment: names, documentation and dependencies never leave the comment.  The
comment of a route stands in the file of the handlers on as many lines as the route has, so on one
line exactly if the route has no line break. -/
theorem package_comments_contained
    {package : Package} {bodies : List FileBody}
    (prepared : Prepared emitter)
    (emitted : (emitPackage emitter).1 = .ok (package, bodies)) :
    ∃ contents, Accepted emitter contents ∧
      (∃ doc ∈ bodies, doc.name = docName ∧ ∃ text comments, doc.body = some text ∧
        Text.lines text = comments ++ ["package " ++ emitter.plan.name, ""] ∧
        ((∀ line ∈ comments, IsComment line) ↔
          ∀ info ∈ contents.services, Contained info.service.version)) ∧
      ∀ info ∈ contents.services, ∀ item ∈ info.operations, ∀ binding,
        item.1.traits.http? = .ok (some binding) →
        ∃ http ∈ bodies, http.name = CodeFile.http.name ∧ ∃ text verb above below,
          http.body = some text ∧
          Route.normalizeMethod item.1.id binding.method = .ok verb ∧
          Text.lines (assemble emitter.plan.name http.imports text) =
            above ++ Text.lines ("//" ++ routeLine item.1.id verb binding.uri) ++ below ∧
          (Text.lines ("//" ++ routeLine item.1.id verb binding.uri)).length =
            (Text.lines binding.uri).length := by
  rcases comments_of_emitted emitted with ⟨contents, accepted, isDoc, routes⟩
  have lined := accepted.lined prepared.obtained prepared.plans
  refine ⟨contents, accepted, ⟨_, isDoc, rfl, _, _, rfl,
    lines_docItems prepared.oneLine_plan.1 contents.services, ?_⟩, ?_⟩
  · rw [← contained_packageComment prepared accepted, List.forall_mem_append,
      List.forall_mem_append, Code.isComment_lines_iff, Code.isComment_lines_iff]
    have header : ∀ line ∈ fileHeader, Contained line := by decide
    have gap : ∀ line ∈ [""], IsComment line := by decide
    exact and_iff_right ⟨header, gap⟩
  · intro info isService item isOperation binding isBound
    rcases routes info isService item isOperation binding isBound with
      ⟨http, isFile, named, text, verb, above, below, body, normalized, whole⟩
    have ofName := (lined.services info isService).operations item isOperation
    exact ⟨http, isFile, named, text, verb, above, below, body, normalized, whole,
      length_lines_routeLine ofName (oneLine_normalizeMethod normalized) binding.uri⟩

end Emitted

/-! A kiosk with a service and a route.  The version of the service has two lines, of which the
second is a comment, or else is a declaration; then the route is broken by a declaration as well. -/

namespace Kiosk

open ShapeForge.Document (Value)

def version : Bool → String
  | false => "2\n// spring edition"
  | true => "2\nvar Spring = true"

def uri : Bool → String
  | false => "/open"
  | true => "/open\nvar Opened = true\n//"

def payload : Bool → String
  | false => "\x7b\"method\":\"GET\",\"uri\":\"/open\"\x7d"
  | true => "\x7b\"method\":\"GET\",\"uri\":\"/open\\nvar Opened = true\\n//\"\x7d"

variable (broken : Bool)

def document : Value :=
  .plainObject [("smithy", .plainText "2.0"), ("shapes", .plainObject
    [("kiosk#Open", .plainObject [("type", .plainText "operation"),
        ("traits", .plainObject [("smithy.api#http",
          .plainObject [("method", .plainText "GET"), ("uri", .plainText (uri broken))])])]),
      ("kiosk#Kiosk", .plainObject [("type", .plainText "service"),
        ("version", .plainText (version broken)),
        ("traits", .plainObject [("smithy.api#documentation",
          .plainText "Sells papers.\n\nEarly.")]),
        ("operations", .plainArray [.plainObject [("target", .plainText "kiosk#Open")]])])])]

def openShape : Shape where
  id := ⟨"kiosk#Open"⟩
  line := 1
  traits := [⟨⟨"smithy.api#http"⟩, payload broken⟩]
  body := .operation {}

def service : Service where
  version := version broken
  operations := [⟨"kiosk#Open"⟩]

def serviceShape : Shape where
  id := ⟨"kiosk#Kiosk"⟩
  line := 1
  traits := [⟨⟨"smithy.api#documentation"⟩, "\"Sells papers.\\n\\nEarly.\""⟩]
  body := .service (service broken)

def model : Model where
  version := "2.0"
  shapes := [openShape broken, serviceShape broken]

def clock : Version where
  major := 1
  minor := 2
  patch := 0
  original := "v1.2"

def dependencies : Dependencies :=
  (Dependencies.ofUses (Use.ofSource "use tools.clock#Now") ["kiosk"]).set "tools.clock" (some clock)

def plan : PackagePlan where
  space := "kiosk"
  name := "kiosk"
  shortName := "kiosk"
  importPath := "generated/kiosk"
  dir := "kiosk"

def emitter : Emitter where
  settings := {}
  model := model broken
  plans := [plan]
  plan := plan
  dependencies := dependencies

def info : ServiceInfo where
  shape := serviceShape broken
  service := service broken
  name := "Kiosk"
  operations := [(openShape broken, {})]

def declared : Contents where
  services := [info broken]
  shapes := []

set_option maxRecDepth 4000 in
theorem prepared_emitter : Prepared (emitter broken) where
  obtained := by
    have read : Load.model "kiosk.json" (document broken) = .ok (model broken) := by
      cases broken <;> rfl
    exact .loaded read
  planned := by
    refine ⟨defaultModulePath, [], ?_⟩
    revert broken
    decide
  isPlan := List.mem_cons_self
  dependencies := .resolved (.declared "use tools.clock#Now" ["kiosk"]) (by decide)
    (show Version.parse? "v1.2" = some clock by decide)

theorem gives_contents : Gives (contents (emitter broken)) (declared broken) := by
  cases broken <;> exact gives_contents_single rfl rfl rfl rfl rfl rfl

def binding : HttpBinding where
  method := "GET"
  uri := uri broken

theorem http?_openShape : (openShape broken).traits.http? = .ok (some (binding broken)) := by
  apply eq_ok_of_toOption
  revert broken
  decide +kernel

theorem gives_routes :
    Gives (Build.each (httpOperations (emitter broken)) (declared broken).services)
      [[{ shape := openShape broken, operation := {}, method := "GET",
          binding := binding broken, params := [] }]] := by
  intro record
  simp only [Build.each, httpOperations, declared, info, httpOperation, http?_openShape]
  cases broken <;> rfl

theorem succeeds_items (file : CodeFile) :
    Succeeds (file.items (emitter broken) (declared broken)) := by
  cases file with
  | http =>
    cases broken with
    | false => exact ((gives_routes false).bind fun _ => rfl).succeeds
    | true => exact ((gives_routes true).bind fun _ => rfl).succeeds
  | _ => exact fun _ => ⟨_, rfl⟩

theorem emitted_package :
    ∃ package bodies, (emitPackage (emitter broken)).1 = .ok (package, bodies) :=
  exists_emitted (gives_contents broken) (succeeds_items broken)

theorem services_eq {contents : Contents} (accepted : Accepted (emitter broken) contents) :
    contents.services = [info broken] := by
  rw [accepted.eq_of_gives (gives_contents broken)]
  rfl

theorem normalizeMethod_open : Route.normalizeMethod (openShape broken).id "GET" = .ok "GET" := by
  change Route.normalizeMethod ⟨"kiosk#Open"⟩ "GET" = .ok "GET"
  exact eq_ok_of_toOption (by decide +kernel)

end Kiosk

open Kiosk in
theorem package_comments_contained_kiosk :
    ∃ package bodies, (emitPackage (emitter false)).1 = .ok (package, bodies) ∧
      (∃ doc ∈ bodies, doc.name = "doc.go" ∧ ∃ text comments, doc.body = some text ∧
        Text.lines text = comments ++ ["package kiosk", ""] ∧
        ∀ line ∈ comments, IsComment line) ∧
      ∃ http ∈ bodies, http.name = "http.go" ∧ ∃ text above below, http.body = some text ∧
        Text.lines (assemble "kiosk" http.imports text) =
          above ++ ["// Open handles GET /open."] ++ below := by
  rcases emitted_package false with ⟨package, bodies, emitted⟩
  rcases package_comments_contained (prepared_emitter false) emitted with
    ⟨contents, accepted, ⟨doc, isDoc, docNamed, text, comments, docBody, lines, contained⟩, routes⟩
  rw [services_eq false accepted] at contained routes
  rcases routes _ List.mem_cons_self _ List.mem_cons_self _ (http?_openShape false) with
    ⟨http, isHttp, httpNamed, code, verb, above, below, httpBody, normalized, whole, -⟩
  have versions : ∀ given ∈ [info false], Contained given.service.version := by decide +kernel
  have comment : Text.lines ("//" ++ routeLine ⟨"kiosk#Open"⟩ "GET" "/open") =
      ["// Open handles GET /open."] := by
    decide +kernel
  cases normalized.symm.trans (normalizeMethod_open false)
  refine ⟨package, bodies, emitted, ⟨doc, isDoc, docNamed, text, comments, docBody, lines,
    contained.mpr versions⟩, http, isHttp, httpNamed, code, above, below, httpBody, ?_⟩
  rw [← comment]
  exact whole

open Kiosk in
/-- A version and a route are quoted as they are: what follows a line break in them is no longer
part of the comment. -/
theorem package_comments_left_kiosk :
    ∃ package bodies, (emitPackage (emitter true)).1 = .ok (package, bodies) ∧
      (∃ doc ∈ bodies, doc.name = "doc.go" ∧ ∃ text, doc.body = some text ∧
        "var Spring = true" ∈ Text.lines text) ∧
      ∃ http ∈ bodies, http.name = "http.go" ∧ ∃ text above below, http.body = some text ∧
        Text.lines (assemble "kiosk" http.imports text) =
          above ++ ["// Open handles GET /open", "var Opened = true", "//."] ++ below := by
  rcases emitted_package true with ⟨package, bodies, emitted⟩
  rcases comments_of_emitted emitted with ⟨contents, accepted, isDoc, routes⟩
  rw [services_eq true accepted] at isDoc routes
  rcases routes _ List.mem_cons_self _ List.mem_cons_self _ (http?_openShape true) with
    ⟨http, isHttp, httpNamed, code, verb, above, below, httpBody, normalized, whole⟩
  have comment : Text.lines ("//" ++ routeLine ⟨"kiosk#Open"⟩ "GET" (uri true)) =
      ["// Open handles GET /open", "var Opened = true", "//."] := by
    decide
  have quoted : " Version: " ++ version true ∈ packageComment (emitter true) [info true] := by
    apply List.mem_append_left
    apply List.mem_append_right
    refine List.mem_flatMap.mpr ⟨info true, List.mem_cons_self, ?_⟩
    exact List.mem_append_right _ (List.mem_cons_of_mem _ List.mem_cons_self)
  have left : "var Spring = true" ∈ Text.lines (Code.text (docItems (emitter true) [info true])) := by
    rw [lines_docItems (prepared_emitter true).oneLine_plan.1]
    apply List.mem_append_left
    apply List.mem_append_right
    exact List.mem_flatMap.mpr ⟨_, quoted, by decide +kernel⟩
  cases normalized.symm.trans (normalizeMethod_open true)
  refine ⟨package, bodies, emitted, ⟨_, isDoc, rfl, _, rfl, left⟩, http, isHttp, httpNamed, code,
    above, below, httpBody, ?_⟩
  rw [← comment]
  exact whole

end ShapeForge.Emit
