import ShapeForge.Proofs.Emit.Qualifiers
import ShapeForge.Proofs.Server.Answering

/-!
# Conflicts between routes

The handlers of a service and the mock server compare the texts of patterns before they register a
route.  Patterns that differ only in the names of labels are different texts for the same paths.
The routes that are registered stay apart without these names exactly if no two operations have such
patterns, and in the mock server it is only then that every route leads to its own operation.
-/

namespace ShapeForge.Emit

open Recording
open ShapeForge.Code (Item)

/-! ## Routes of handlers -/

def HttpOperation.route (bound : HttpOperation) : String × ShapeId :=
  (Route.pattern bound.method bound.binding, bound.shape.id)

/-- The characters of a pattern without the names that follow its opening braces. -/
def withoutNames (inName : Bool) : List Char → List Char
  | [] => []
  | c :: rest =>
    if inName && ShapeId.isIdentifierChar c then withoutNames true rest
    else c :: withoutNames (c == '\x7b') rest

/-- A pattern without the names of its labels. -/
def unnamed (pattern : String) : List Char :=
  withoutNames false pattern.toList

section Emitted

variable {emitter : Emitter}

theorem gives_warnLabels (shape : Shape) (problem : String) (labels : List String) :
    Gives (warnLabels emitter shape problem labels) () := by
  have issues : Gives (Build.each (fun label =>
      emitter.shapeIssue shape ("URI label " ++ braced label ++ problem) .warning) labels)
      (labels.map fun _ => ()) := by
    induction labels with
    | nil => exact gives_pure []
    | cons label rest ih => exact gives_each (fun _ => rfl) ih
  exact issues.bind (gives_pure ())

end Emitted

end ShapeForge.Emit

namespace ShapeForge.Server

open Emit Recording
open BoundOperation (placeOf)

namespace Twins

def id : Bool → ShapeId
  | false => ⟨"depot#ById"⟩
  | true => ⟨"depot#ByName"⟩

def uri : Bool → String
  | false => "/items/\x7bid\x7d"
  | true => "/items/\x7bname\x7d"

def payload : Bool → String
  | false => "\x7b\"method\":\"GET\",\"uri\":\"/items/\x7bid\x7d\"\x7d"
  | true => "\x7b\"method\":\"GET\",\"uri\":\"/items/\x7bname\x7d\"\x7d"

def fetch (named : Bool) : Shape where
  id := id named
  traits := [⟨⟨"smithy.api#http"⟩, payload named⟩]
  body := .operation {}

def operations : List (Shape × Operation) :=
  [(fetch false, {}), (fetch true, {})]

def service : Service where
  version := "1"
  operations := [id false, id true]

def serviceShape : Shape where
  id := ⟨"depot#Depot"⟩
  body := .service service

def emitter : Emitter where
  settings := {}
  model := { version := "2.0", shapes := [fetch false, fetch true, serviceShape] }
  plans := []
  plan := { space := "depot", name := "depot" }

def info : ServiceInfo where
  shape := serviceShape
  service := service
  name := "Depot"
  operations := operations

def declared : Contents where
  services := [info]
  shapes := []

theorem addOperations_own : emitter.model.addOperations [] service.operations = .ok operations :=
  rfl

theorem gives_contents : Gives (contents emitter) declared :=
  gives_contents_single rfl rfl addOperations_own rfl rfl rfl

def binding (named : Bool) : HttpBinding where
  method := "GET"
  uri := uri named

theorem http?_fetch (named : Bool) : (fetch named).traits.http? = .ok (some (binding named)) := by
  apply eq_ok_of_toOption
  revert named
  decide +kernel

def handled (named : Bool) : HttpOperation where
  shape := fetch named
  operation := {}
  method := "GET"
  binding := binding named
  params := []

theorem gives_route (named : Bool) :
    Gives (httpOperation emitter (fetch named, {})) (some (handled named)) := by
  have decoded : Gives (Build.check (fetch named).traits.http?) (some (binding named)) := by
    rw [http?_fetch]
    exact fun _ => rfl
  have method : Gives (Build.check (Route.normalizeMethod (fetch named).id "GET")) "GET" :=
    fun _ => rfl
  have params : Gives (httpParams emitter (fetch named) {} (binding named)) [] :=
    (gives_warnLabels _ _ _).bind (gives_pure [])
  exact decoded.bind (method.bind (params.bind (gives_pure _)))

theorem gives_routes :
    Gives (Build.each (httpOperations emitter) declared.services)
      [[handled false, handled true]] := by
  have routes : Gives (Build.each (httpOperation emitter) operations)
      [some (handled false), some (handled true)] :=
    gives_each (gives_route false) (gives_each (gives_route true) (gives_pure []))
  exact gives_each (routes.bind (gives_pure _)) (gives_pure [])

theorem succeeds_items (file : CodeFile) : Succeeds (file.items emitter declared) := by
  cases file with
  | http => exact (gives_routes.bind fun _ => rfl).succeeds
  | _ => exact fun _ => ⟨_, rfl⟩

def bound (named : Bool) : BoundOperation where
  shape := fetch named
  operation := {}
  method := "GET"
  pattern := uri named
  code := 200
  greedy := ""

theorem bind?_fetch (named : Bool) : bind? (fetch named, {}) = .ok (some (bound named)) := by
  have method : Route.normalizeMethod (fetch named).id (binding named).method = .ok "GET" :=
    eq_ok_of_toOption (by cases named <;> decide)
  have pattern : Route.serverPattern (binding named).path = (uri named, "") := by
    cases named <;> decide
  simp only [bind?, http?_fetch, method, pattern, bind, Except.bind]
  rfl

def endpoint (named : Bool) : Endpoint Handler where
  target := .operation (bound named)
  pattern := uri named
  names := [if named then "name" else "id"]

def steps : List Segment :=
  (bytesOf "/items/").map .static ++ [.param slash]

theorem register_bound (tree : RouteTree Handler) (named : Bool) :
    register tree [(bound named).method] (bound named).pattern (.operation (bound named)) =
      .ok (tree.insert "GET" (endpoint named) steps) := by
  have parsed : RoutePattern.parse (bound named).pattern =
      .ok { segments := steps, names := (endpoint named).names } :=
    eq_ok_of_toOption (by cases named <;> decide +kernel)
  rw [register, parsed]
  rfl

def tree : RouteTree Handler :=
  let metrics := knownMethods.foldl (fun (tree : RouteTree Handler) method => tree.insert method
    { target := .metrics, pattern := metricsPath, names := [] } ((bytesOf metricsPath).map .static))
    .empty
  (metrics.insert "GET" (endpoint false) steps).insert "GET" (endpoint true) steps

theorem exists_server :
    ∃ server, build emitter.model ⟨""⟩ 1 5 = .ok server ∧
      server.routes = [bound false, bound true] ∧ server.tree = tree := by
  have all : emitter.model.serviceOperations service = .ok operations := by
    rw [Model.serviceOperations, addOperations_own]
    simp [bind, Except.bind, service, Model.walkResources]
  have selected : selectService emitter.model ⟨""⟩ = .ok (serviceShape, service) := rfl
  have metrics : RoutePattern.parse metricsPath =
      .ok { segments := (bytesOf metricsPath).map .static, names := [] } :=
    eq_ok_of_toOption (by decide +kernel)
  have built : build emitter.model ⟨""⟩ 1 5 =
      .ok { model := emitter.model, service := serviceShape.id
            mocks := { model := emitter.model, seed := 1, listSize := 5 }
            routes := [bound false, bound true], tree } := by
    rw [build, selected, register, metrics]
    simp only [all, operations, registerAll, bind?_fetch, register_bound, bind, Except.bind,
      Except.mapError]
    rfl
  exact ⟨_, built, rfl, rfl⟩

end Twins

end ShapeForge.Server
