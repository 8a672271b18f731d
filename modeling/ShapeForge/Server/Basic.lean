import ShapeForge.Decimal.Shortest
import ShapeForge.Emit.DocFile
import ShapeForge.Log.Entry
import ShapeForge.Route
import ShapeForge.Server.Metrics
import ShapeForge.Server.Routing
import ShapeForge.Validation.Instance

/-!
# The mock server

The mock server answers the operations of a service that are bound to routes.  A request is
checked against the input of its operation: members bound to labels and to the query are read
from the URL, all others from the JSON body.  A request without a required member is refused;
other requests are answered with an instance of the output.
-/

namespace ShapeForge.Server

structure BoundOperation where
  shape : Shape
  operation : Operation
  method : String
  pattern : String
  code : Int
  greedy : String

inductive Handler where
  | metrics
  | operation (bound : BoundOperation)

structure Server where
  model : Model
  service : ShapeId
  mocks : Mocks
  routes : List BoundOperation
  tree : RouteTree Handler

/-- Why there is no server: the model does not allow one, or a pattern cannot be registered. -/
inductive BuildFault where
  | fault (cause : Fault)
  | pattern (cause : PatternFault)

def metricsPath : String := "/metrics"

def knownMethods : List String :=
  ["CONNECT", "DELETE", "GET", "HEAD", "OPTIONS", "PATCH", "POST", "PUT", "TRACE"]

def selectService (model : Model) (id : ShapeId) : Except Fault (Shape × Service) :=
  if !id.isEmpty then model.resolveService id
  else match model.services with
    | [service] => .ok service
    | [] => .error (.plain "mockserver: model declares no service")
    | first :: rest =>
      .error (.serviceCount first.1.id.nameSpace ((first :: rest).map (·.1.id.text)))

def bind? (item : Shape × Operation) : Except Fault (Option BoundOperation) := do
  let (shape, operation) := item
  match ← shape.traits.http? with
  | none => return none
  | some binding =>
    let method ← Route.normalizeMethod shape.id binding.method
    let (pattern, greedy) := Route.serverPattern binding.path
    return some { shape, operation, method, pattern, code := binding.code, greedy }

def register (tree : RouteTree Handler) (methods : List String) (pattern : String)
    (target : Handler) : Except PatternFault (RouteTree Handler) := do
  let parsed ← RoutePattern.parse pattern
  let endpoint := { target, pattern, names := parsed.names }
  return methods.foldl (fun tree method => tree.insert method endpoint parsed.segments) tree

/-- Bind and register operations; a route that is taken is left out. -/
def registerAll (tree : RouteTree Handler) (taken : List (String × String)) :
    List (Shape × Operation) → Except BuildFault (List BoundOperation × RouteTree Handler)
  | [] => .ok ([], tree)
  | item :: rest => do
    match ← (bind? item).mapError .fault with
    | none => registerAll tree taken rest
    | some bound =>
      let key := (bound.method, bound.pattern)
      if taken.contains key then registerAll tree taken rest
      else
        let tree ← (register tree [bound.method] bound.pattern (.operation bound)).mapError
          .pattern
        let (routes, tree) ← registerAll tree (key :: taken) rest
        return (bound :: routes, tree)

/-- What there is to note about operations that have no route of their own; the routes that are
taken stand with their operations.  Nothing is noted behind an operation that cannot be bound. -/
def registrationNotes (taken : List ((String × String) × ShapeId)) :
    List (Shape × Operation) → List Log.Entry
  | [] => []
  | item :: rest =>
    match bind? item with
    | .error _ => []
    | .ok none =>
      { level := .debug, message := "operation has no http trait"
        fields := [("operation", .string item.1.id.text)] } :: registrationNotes taken rest
    | .ok (some bound) =>
      let key := (bound.method, bound.pattern)
      match taken.find? (·.1 == key) with
      | none => registrationNotes ((key, bound.shape.id) :: taken) rest
      | some (_, first) =>
        { level := .warn, message := "duplicate route skipped"
          fields := [("route", .string (bound.method ++ " " ++ bound.pattern)),
            ("operation", .string bound.shape.id.text),
            ("registered", .string first.text)] } :: registrationNotes taken rest

def buildNotes (model : Model) (id : ShapeId) : List Log.Entry :=
  match selectService model id with
  | .error _ => []
  | .ok (shape, service) =>
    ((registrationNotes [] ((model.serviceOperations service).toOption.getD [])).map fun entry =>
      { entry with fields := ("service", .string shape.id.text) :: entry.fields })

def build (model : Model) (id : ShapeId) (seed listSize : Nat) : Except BuildFault Server := do
  let (shape, service) ← (selectService model id).mapError .fault
  let operations ← (model.serviceOperations service).mapError .fault
  let tree ← (register .empty knownMethods metricsPath .metrics).mapError .pattern
  let (routes, tree) ← registerAll tree [] operations
  return { model, service := shape.id, mocks := { model, seed, listSize }, routes, tree }

structure Request where
  method : String
  target : Target
  body : Except String Bytes

structure Response where
  status : Int
  contentType : String := ""
  body : String := ""
  deriving Repr, Inhabited, DecidableEq

def jsonType : String := "application/json"

inductive Handled where
  | answered (response : Response)
  /-- Handling broke off; the content type may have been set before. -/
  | brokeOff (contentType : String)

def failure (status : Int) (fault : Fault) : Response :=
  { status
    contentType := jsonType
    body := Json.write (.object [("message", .string fault.message)]) ++ "\n" }

def maxBodySize : Nat := 1048576

/-- Arrays and objects are decoded up to this depth. -/
def maxDepth : Nat := 10000

mutual

def inRange : Json → Bool
  | .number literal =>
    match Decimal.rounded? literal with
    | some (.finite _ _ _) => true
    | _ => false
  | .array items => itemsInRange items
  | .object fields => fieldsInRange fields
  | _ => true

def itemsInRange : List Json → Bool
  | [] => true
  | item :: rest => inRange item && itemsInRange rest

def fieldsInRange : List (String × Json) → Bool
  | [] => true
  | (_, value) :: rest => inRange value && fieldsInRange rest

end

/-- The members of a body; `none` if it is the literal `null`. -/
def decodeBody (data : Bytes) : Except Fault (Option (List (String × Json))) :=
  let refuse : Except Fault (Option (List (String × Json))) :=
    .error (.context "decoding body" (.plain "the body is not a JSON object"))
  let text := textOf (data.take maxBodySize)
  if (Text.trim text).isEmpty then .ok (some [])
  else match Json.read? text with
    | some value =>
      if !inRange value || maxDepth < value.depth then refuse
      else match value with
        | .object fields => .ok (some fields)
        | .null => .ok none
        | _ => refuse
    | none => refuse

/-- The value of a parameter of the route; the last of equal names counts. -/
def pathParam (endpoint : Endpoint Handler) (values : List Bytes) (name : String) : Bytes :=
  (((endpoint.names.zip values).reverse.find? (·.1 == name)).map (·.2)).getD []

/-- The entry that the URL supplies for a member, if it does. -/
def urlMember? (bound : BoundOperation) (endpoint : Endpoint Handler) (values : List Bytes)
    (target : Target) (member : Member) : Option (String × Json) :=
  if member.traits.isLabel then
    let name := if member.name == bound.greedy then "*" else member.name
    let value := pathParam endpoint values name
    if value.isEmpty then none else some (member.jsonName, .string (textOf value))
  else
    (member.traits.query?.bind target.parameter?).map fun value =>
      (member.jsonName, .string (textOf value))

/-- The instance that a request gives of the input: the members of the body with those of the URL
over them.  `none` if there is nothing to put the latter into. -/
def requestInstance (server : Server) (bound : BoundOperation) (endpoint : Endpoint Handler)
    (values : List Bytes) (request : Request) : Except Fault (Option (List (String × Json))) := do
  let data ← match request.body with
    | .ok data => pure data
    | .error reason => throw (.context "reading body" (.plain reason))
  let body ← decodeBody data
  let input ← server.model.resolveStructure bound.operation.input
  let entries := input.members.filterMap (urlMember? bound endpoint values request.target)
  match body with
  | some fields => return some (fields ++ entries)
  | none => return if entries.isEmpty then some [] else none

def isStatus (code : Int) : Bool :=
  100 ≤ code && code ≤ 999

def answer (server : Server) (bound : BoundOperation) (now : String) : Handled :=
  if bound.operation.output.isUnit then
    if isStatus bound.code then .answered { status := bound.code } else .brokeOff ""
  else match server.mocks.ofStructure bound.operation.output with
    | .error fault => .answered (failure 500 fault)
    | .ok value =>
      if isStatus bound.code then
        .answered { status := bound.code, contentType := jsonType, body := value.json now }
      else .brokeOff jsonType

def handle (server : Server) (bound : BoundOperation) (endpoint : Endpoint Handler)
    (values : List Bytes) (request : Request) (now : String) : Handled :=
  if bound.operation.input.isUnit then answer server bound now
  else match requestInstance server bound endpoint values request with
    | .error fault => .answered (failure 400 fault)
    | .ok none => .brokeOff ""
    | .ok (some fields) =>
      match Validation.checkInstance server.model bound.operation.input (.object fields) with
      | .error fault => .answered (failure 400 fault)
      | .ok _ => answer server bound now

def notFound : Response :=
  { status := 404, contentType := "text/plain; charset=utf-8", body := "404 page not found\n" }

def notAllowed : Response := { status := 405 }

def internalError (contentType : String) : Response := { status := 500, contentType }

def metricsResponse (metrics : Metrics) : Response :=
  { status := 200
    contentType := "text/plain; version=0.0.4; charset=utf-8; escaping=underscores"
    body := "".intercalate (metrics.lines.map (· ++ "\n")) }

/-- The label of a route: its pattern without slashes at the end, and without stars between
slashes. -/
def routeLabel (pattern : String) : String :=
  let label := Text.replaceAll pattern "/*/" "/"
  if label == "/" then label
  else dropSuffix "/" (dropSuffix "//" label)
where
  dropSuffix (ending text : String) : String :=
    if text.endsWith ending then (text.dropEnd ending.length).toString else text

def unmatched : String := "unmatched"

/-- The status that is counted: a preliminary one counts as success. -/
def countedStatus (status : Int) : Int :=
  if 100 ≤ status && status ≤ 199 && status != 101 then 200 else status

/-- Route and handle a request: the answer, and the pattern of the route. -/
def dispatch (server : Server) (metrics : Metrics) (request : Request) (now : String) :
    Handled × String :=
  if !knownMethods.contains request.method then (.answered notAllowed, "")
  else
    let path := if request.target.routed.isEmpty then [slash] else request.target.routed
    match server.tree.find request.method [] path with
    | .route endpoint values =>
      (match endpoint.target with
      | .metrics => .answered (metricsResponse metrics)
      | .operation bound => handle server bound endpoint values request now, endpoint.pattern)
    | .nothing true => (.answered notAllowed, "")
    | .nothing false => (.answered notFound, "")

/-- Answer a request and count it.  Requests for the metrics and those that broke off are not
counted. -/
def respond (server : Server) (metrics : Metrics) (request : Request) (now : String) :
    Response × Metrics :=
  match dispatch server metrics request now with
  | (.brokeOff contentType, _) => (internalError contentType, metrics)
  | (.answered response, pattern) =>
    if request.target.path == bytesOf metricsPath then (response, metrics)
    else
      let label := routeLabel pattern
      (response, metrics.observe request.method (if label.isEmpty then unmatched else label)
        (countedStatus response.status))

def serverName : String := "smithygen/" ++ Emit.programVersion

end ShapeForge.Server
