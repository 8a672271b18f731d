import ShapeForge.Proofs.Mock.Rendering
import ShapeForge.Proofs.Mock.Walk
import ShapeForge.Proofs.Model.Operations
import ShapeForge.Proofs.Server.RouteTree

/-!
# Answers of the mock server

A request to a routed operation is refused, breaks off, or is answered with the output of the
operation.  It is refused exactly if the input is no structure, the body cannot be decoded, or the
members of the body and of the URL together are no instance of the input.  It breaks off exactly if
the body is the literal `null` and the URL supplies a member that would have to be put into it.
-/

namespace ShapeForge.Mocks

open MockValue (Renderable)

theorem renderable_of_ofStructure {mocks : Mocks} {id : ShapeId} {value : MockValue}
    (run : mocks.ofStructure id = .ok value) :
    Renderable value := by
  rcases synthesized_of_ofStructure run with ⟨shape, fields, -, rfl, results, -, rfl, parts⟩
  exact .structure fun field isField => (parts _ (mem_present.mp isField)).renderable _ rfl

end ShapeForge.Mocks

namespace ShapeForge.Server

open Mocks (Walk walkOfStructure)

/-! ## Routed operations -/

theorem bind?_eq_ok {item : Shape × Operation} {bound : BoundOperation}
    (isBound : bind? item = .ok (some bound)) :
    ∃ binding, item.1.traits.http? = .ok (some binding) ∧ bound.shape = item.1 ∧
      bound.code = binding.code := by
  rcases bind_eq_ok.mp isBound with ⟨decoded, isDecoded, isBound⟩
  cases decoded with
  | none => cases isBound
  | some binding =>
    rcases bind_eq_ok.mp isBound with ⟨method, -, isBound⟩
    cases isBound
    exact ⟨binding, isDecoded, rfl, rfl⟩

/-- A server serves its model, and its routes are those of the traits of operations. -/
theorem of_build {model : Model} {id : ShapeId} {seed listSize : Nat} {server : Server}
    (built : build model id seed listSize = .ok server) :
    server.model = model ∧ server.mocks = { model, seed, listSize } ∧
      ∀ bound ∈ server.routes, bound.shape ∈ model.shapes ∧
        ∃ binding, bound.shape.traits.http? = .ok (some binding) ∧ bound.code = binding.code := by
  rcases registered_of_build built with
    ⟨shape, service, operations, tree, -, areOperations, ofModel, mocks, registered⟩
  refine ⟨ofModel, mocks, ?_⟩
  intro bound isRoute
  rw [registered.routes_eq] at isRoute
  rcases List.mem_filterMap.mp (firsts_subset _ _ isRoute) with ⟨item, isOperation, isBound⟩
  rcases bind?_eq_ok (bound?_eq_some.mp isBound) with ⟨binding, decoded, ofShape, code⟩
  rw [ofShape]
  exact ⟨Model.mem_shapes_of_serviceOperations areOperations item isOperation, binding, decoded,
    code⟩

/-! ## Bodies -/

def bodyText (data : Bytes) : String :=
  textOf (data.take maxBodySize)

/-- What a body stands for: where nothing is written an object without members, and otherwise the
object or the `null` that is written, if its numbers are in range and it is not nested too deeply. -/
inductive Decodes (data : Bytes) : Option (List (String × Json)) → Prop where
  | blank (nothing : (Text.trim (bodyText data)).isEmpty = true) :
      Decodes data (some [])
  | object {fields : List (String × Json)}
      (written : (Text.trim (bodyText data)).isEmpty = false)
      (read : Json.read? (bodyText data) = some (.object fields))
      (numbers : inRange (.object fields) = true)
      (shallow : (Json.object fields).depth ≤ maxDepth) :
      Decodes data (some fields)
  | null
      (written : (Text.trim (bodyText data)).isEmpty = false)
      (read : Json.read? (bodyText data) = some .null) :
      Decodes data none

theorem decodes_of_decodeBody {data : Bytes} {body : Option (List (String × Json))}
    (decoded : decodeBody data = .ok body) :
    Decodes data body := by
  unfold decodeBody at decoded
  simp only at decoded
  split at decoded
  · next nothing =>
      cases decoded
      exact .blank nothing
  · next written =>
      rw [Bool.not_eq_true] at written
      split at decoded
      · next value read =>
          split at decoded
          · cases decoded
          · next fit =>
              simp only [Bool.or_eq_true, not_or, Bool.not_eq_true', Bool.not_eq_false,
                decide_eq_true_eq, not_lt] at fit
              cases value with
              | object fields =>
                cases decoded
                exact .object written read fit.1 fit.2
              | null =>
                cases decoded
                exact .null written read
              | _ => cases decoded
      · cases decoded

theorem decodeBody_eq_ok {data : Bytes} {body : Option (List (String × Json))} :
    decodeBody data = .ok body ↔ Decodes data body := by
  refine ⟨decodes_of_decodeBody, ?_⟩
  intro decodes
  unfold decodeBody
  cases decodes with
  | blank nothing =>
    rw [bodyText] at nothing
    simp only [nothing, if_true]
  | object written read numbers shallow =>
    rw [bodyText] at written read
    simp only [written, read, numbers, Nat.not_lt.mpr shallow, Bool.false_eq_true, if_false,
      Bool.not_true, decide_false, Bool.or_false]
  | null written read =>
    rw [bodyText] at written read
    simp only [written, read, Bool.false_eq_true, if_false]
    rfl

/-! ## Requests -/

section Requests

variable (server : Server) (bound : BoundOperation) (endpoint : Endpoint Handler)
variable (values : List Bytes) (request : Request)

/-- The members of the input that the URL supplies. -/
def supplied (input : Shape) : List (String × Json) :=
  input.members.filterMap (urlMember? bound endpoint values request.target)

/-- What is checked against the input: the members of the body and behind them those that the URL
supplies.  Members cannot be put into `null`. -/
inductive Merged : Option (List (String × Json)) → Prop where
  | members {data : Bytes} {input : Shape} {members : List (String × Json)}
      (given : request.body = .ok data) (decodes : Decodes data (some members))
      (resolved : server.model.resolveStructure bound.operation.input = .ok input) :
      Merged (some (members ++ supplied bound endpoint values request input))
  | nothing {data : Bytes} {input : Shape}
      (given : request.body = .ok data) (decodes : Decodes data none)
      (resolved : server.model.resolveStructure bound.operation.input = .ok input)
      (unsupplied : supplied bound endpoint values request input = []) :
      Merged (some [])
  | unplaced {data : Bytes} {input : Shape}
      (given : request.body = .ok data) (decodes : Decodes data none)
      (resolved : server.model.resolveStructure bound.operation.input = .ok input)
      (isSupplied : supplied bound endpoint values request input ≠ []) :
      Merged none

/-- The body is `null`, and the URL supplies a member of the input. -/
structure Dropped : Prop where
  checked : bound.operation.input.isUnit = false
  null : ∃ data, request.body = .ok data ∧ Decodes data none
  supplied : ∃ input, server.model.resolveStructure bound.operation.input = .ok input ∧
    supplied bound endpoint values request input ≠ []

/-- The input is no structure, the body cannot be decoded, or what is checked is no instance of the
input. -/
structure Refused : Prop where
  checked : bound.operation.input.isUnit = false
  cause :
    (∀ input, server.model.resolveStructure bound.operation.input ≠ .ok input) ∨
    (∀ data body, request.body = .ok data → ¬Decodes data body) ∨
    ∃ fields fault, Merged server bound endpoint values request (some fields) ∧
      Validation.checkInstance server.model bound.operation.input (.object fields) = .error fault

variable {server bound endpoint values request}

/-- Members put behind those of a body. -/
def placed (members : List (String × Json)) :
    Option (List (String × Json)) → Option (List (String × Json))
  | some fields => some (fields ++ members)
  | none => if members.isEmpty then some [] else none

theorem requestInstance_of_body {data : Bytes} (given : request.body = .ok data) :
    requestInstance server bound endpoint values request =
      decodeBody data >>= fun body =>
        server.model.resolveStructure bound.operation.input >>= fun input =>
          .ok (placed (supplied bound endpoint values request input) body) := by
  unfold requestInstance
  simp only [given, pure_bind]
  congr 1
  funext body
  congr 1
  funext input
  cases body <;> rfl

theorem Merged.requestInstance {result : Option (List (String × Json))}
    (merged : Merged server bound endpoint values request result) :
    requestInstance server bound endpoint values request = .ok result := by
  cases merged with
  | members given decodes resolved =>
    rw [requestInstance_of_body given, decodeBody_eq_ok.mpr decodes, resolved]
    rfl
  | nothing given decodes resolved unsupplied =>
    rw [requestInstance_of_body given, decodeBody_eq_ok.mpr decodes, resolved]
    simp [bind, Except.bind, placed, unsupplied]
  | unplaced given decodes resolved isSupplied =>
    rw [requestInstance_of_body given, decodeBody_eq_ok.mpr decodes, resolved]
    simp [bind, Except.bind, placed, isSupplied]

theorem merged_of_requestInstance {result : Option (List (String × Json))}
    (read : requestInstance server bound endpoint values request = .ok result) :
    Merged server bound endpoint values request result := by
  cases given : request.body with
  | error reason =>
    unfold requestInstance at read
    rw [given] at read
    cases read
  | ok data =>
    rw [requestInstance_of_body given] at read
    rcases bind_eq_ok.mp read with ⟨body, decoded, read⟩
    rcases bind_eq_ok.mp read with ⟨input, resolved, read⟩
    have decodes := decodes_of_decodeBody decoded
    rw [← Except.ok.inj read]
    cases body with
    | some members => exact .members given decodes resolved
    | none =>
      rw [placed]
      split
      · next empty => exact .nothing given decodes resolved (List.isEmpty_iff.mp empty)
      · next nonempty => exact .unplaced given decodes resolved (mt List.isEmpty_iff.mpr nonempty)

/-- A body that decodes can be merged with what the URL supplies, or else that cannot be placed. -/
theorem exists_merged {data : Bytes} {body : Option (List (String × Json))} {input : Shape}
    (given : request.body = .ok data) (decodes : Decodes data body)
    (resolved : server.model.resolveStructure bound.operation.input = .ok input) :
    ∃ result, Merged server bound endpoint values request result := by
  cases body with
  | some members => exact ⟨_, .members given decodes resolved⟩
  | none =>
    by_cases unsupplied : supplied bound endpoint values request input = []
    · exact ⟨_, .nothing given decodes resolved unsupplied⟩
    · exact ⟨_, .unplaced given decodes resolved unsupplied⟩

/-! ## Three ways to handle a request -/

theorem Dropped.handle (dropped : Dropped server bound endpoint values request) (now : String) :
    handle server bound endpoint values request now = .brokeOff "" := by
  rcases dropped with ⟨checked, ⟨data, given, decodes⟩, ⟨input, resolved, isSupplied⟩⟩
  have merged : Merged server bound endpoint values request none :=
    .unplaced given decodes resolved isSupplied
  rw [Server.handle, checked, if_neg Bool.false_ne_true, merged.requestInstance]

theorem Refused.handle (refused : Refused server bound endpoint values request) (now : String) :
    ∃ fault, handle server bound endpoint values request now = .answered (failure 400 fault) := by
  rcases refused with ⟨checked, cause⟩
  rw [Server.handle, checked, if_neg Bool.false_ne_true]
  cases read : requestInstance server bound endpoint values request with
  | error fault => exact ⟨fault, rfl⟩
  | ok result =>
    have merged := merged_of_requestInstance read
    rcases cause with unresolved | undecodable | ⟨fields, fault, isMerged, rejected⟩
    · cases merged with
      | members _ _ resolved | nothing _ _ resolved | unplaced _ _ resolved =>
        exact absurd resolved (unresolved _)
    · cases merged with
      | members given decodes | nothing given decodes | unplaced given decodes =>
        exact absurd decodes (undecodable _ _ given)
    · cases read.symm.trans isMerged.requestInstance
      exact ⟨fault, by simp only [rejected]⟩

/-- A request that is neither dropped nor refused is answered with the output. -/
theorem handle_of_accepted (kept : ¬Dropped server bound endpoint values request)
    (accepted : ¬Refused server bound endpoint values request) (now : String) :
    handle server bound endpoint values request now = answer server bound now := by
  cases checked : bound.operation.input.isUnit with
  | true => rw [Server.handle, checked, if_pos rfl]
  | false =>
    rw [Server.handle, checked, if_neg Bool.false_ne_true]
    -- The input resolves and the body decodes, or else the request would be refused.
    have resolves : ∃ input, server.model.resolveStructure bound.operation.input = .ok input := by
      by_contra unresolved
      exact accepted ⟨checked, Or.inl fun input resolved => unresolved ⟨input, resolved⟩⟩
    have decoded : ∃ data body, request.body = .ok data ∧ Decodes data body := by
      by_contra undecodable
      exact accepted ⟨checked, Or.inr (Or.inl fun data body given decodes =>
        undecodable ⟨data, body, given, decodes⟩)⟩
    rcases resolves with ⟨input, resolved⟩
    rcases decoded with ⟨data, body, given, decodes⟩
    rcases exists_merged given decodes resolved with ⟨result, merged⟩
    rw [merged.requestInstance]
    cases result with
    | none =>
      cases merged with
      | unplaced given decodes resolved isSupplied =>
        exact absurd ⟨checked, ⟨_, given, decodes⟩, ⟨_, resolved, isSupplied⟩⟩ kept
    | some fields =>
      cases outcome : Validation.checkInstance server.model bound.operation.input
        (.object fields) with
      | error fault =>
        exact absurd ⟨checked, Or.inr (Or.inr ⟨fields, fault, merged, outcome⟩)⟩ accepted
      | ok _ => simp only [outcome]

end Requests

/-! ## Outputs -/

/-- What an operation is answered with: nothing where its output is the unit, and otherwise an
instance of it. -/
inductive Output (server : Server) (bound : BoundOperation) : Option MockValue → Prop where
  | unit (isUnit : bound.operation.output.isUnit = true) : Output server bound none
  | value {value : MockValue}
      (isData : bound.operation.output.isUnit = false)
      (synthesized : server.mocks.ofStructure bound.operation.output = .ok value) :
      Output server bound (some value)

/-- The output is data of which there is no instance. -/
structure Unsynthesized (server : Server) (bound : BoundOperation) : Prop where
  isData : bound.operation.output.isUnit = false
  failed : ∃ fault, server.mocks.ofStructure bound.operation.output = .error fault

def success (code : Int) (now : String) : Option MockValue → Response
  | none => { status := code }
  | some value => { status := code, contentType := jsonType, body := value.json now }

section Outputs

variable {server : Server} {bound : BoundOperation}

/-- A report of a failure ends in a line break, and the text of an instance does not. -/
theorem success_ne_failure {output : Option MockValue}
    (isOutput : Output server bound output) (code status : Int) (fault : Fault) (now : String) :
    success code now output ≠ failure status fault := by
  intro same
  have bodies : (success code now output).body.toList.getLast? = some '\n' := by
    rw [same, failure, String.toList_append]
    exact List.getLast?_concat
  cases isOutput with
  | unit => cases bodies
  | value isData synthesized =>
    rcases Mocks.synthesized_of_ofStructure synthesized with ⟨_, fields, -, rfl, -⟩
    rw [success, MockValue.json, String.toList_append] at bodies
    have last (text : List Char) : (text ++ "\x7d".toList).getLast? = some '\x7d' :=
      List.getLast?_concat
    rw [last] at bodies
    exact absurd (Option.some.inj bodies) (by decide)

theorem answer_of_output {output : Option MockValue}
    (isOutput : Output server bound output) (valid : isStatus bound.code = true) (now : String) :
    answer server bound now = .answered (success bound.code now output) := by
  unfold answer
  cases isOutput with
  | unit isUnit => simp only [isUnit, valid, if_true, success]
  | value isData synthesized =>
    simp only [isData, synthesized, valid, Bool.false_eq_true, if_false, if_true, success]

theorem Unsynthesized.answer (unsynthesized : Unsynthesized server bound) (now : String) :
    ∃ fault, answer server bound now = .answered (failure 500 fault) := by
  rcases unsynthesized with ⟨isData, fault, failed⟩
  refine ⟨fault, ?_⟩
  unfold Server.answer
  simp only [isData, failed, Bool.false_eq_true, if_false]

theorem output_or_unsynthesized (server : Server) (bound : BoundOperation) :
    (∃ output, Output server bound output) ∨ Unsynthesized server bound := by
  cases isUnit : bound.operation.output.isUnit with
  | true => exact Or.inl ⟨none, .unit isUnit⟩
  | false =>
    cases run : server.mocks.ofStructure bound.operation.output with
    | ok value => exact Or.inl ⟨some value, .value isUnit run⟩
    | error fault => exact Or.inr ⟨isUnit, fault, run⟩

theorem failure_status_inj {status other : Int} {fault cause : Fault}
    (same : Handled.answered (failure status fault) = .answered (failure other cause)) :
    status = other :=
  congrArg Response.status (Handled.answered.inj same)

/-- How a request is handled, and why. -/
theorem handle_cases (endpoint : Endpoint Handler) (values : List Bytes) (request : Request)
    (valid : isStatus bound.code = true) (now : String) :
    (Dropped server bound endpoint values request ∧
      handle server bound endpoint values request now = .brokeOff "") ∨
    (Refused server bound endpoint values request ∧
      ∃ fault, handle server bound endpoint values request now = .answered (failure 400 fault)) ∨
    (¬Dropped server bound endpoint values request ∧
      ¬Refused server bound endpoint values request ∧ Unsynthesized server bound ∧
      ∃ fault, handle server bound endpoint values request now = .answered (failure 500 fault)) ∨
    ∃ output, Output server bound output ∧
      handle server bound endpoint values request now =
        .answered (success bound.code now output) := by
  by_cases dropped : Dropped server bound endpoint values request
  · exact Or.inl ⟨dropped, dropped.handle now⟩
  by_cases refused : Refused server bound endpoint values request
  · exact Or.inr (Or.inl ⟨refused, refused.handle now⟩)
  rw [handle_of_accepted dropped refused]
  rcases output_or_unsynthesized server bound with ⟨output, isOutput⟩ | unsynthesized
  · exact Or.inr (Or.inr (Or.inr ⟨output, isOutput, answer_of_output isOutput valid now⟩))
  · exact Or.inr (Or.inr (Or.inl ⟨dropped, refused, unsynthesized, unsynthesized.answer now⟩))

end Outputs

/-- Every request to a routed operation is handled in one of four ways, which are told apart by the
request and the model.  It breaks off exactly if it is dropped, with a body `null` in front of
members of the URL.  It is answered with status 400 exactly if it is refused, and with status 500
exactly if there is no instance of the output.  All other requests are answered with the status of
the operation's trait and, unless the output is the unit, with an instance that is read back as
JSON.  In a grounded model the synthesis of the output comes to an end without its guards. -/
theorem routed_requests_answered
    {model : Model} {id : ShapeId} {seed listSize : Nat} {server : Server} {bound : BoundOperation}
    (built : build model id seed listSize = .ok server)
    (isRoute : bound ∈ server.routes)
    (valid : ∀ shape ∈ model.shapes, ∀ binding, shape.traits.http? = .ok (some binding) →
      isStatus binding.code = true)
    (grounded : model.Grounded)
    (endpoint : Endpoint Handler) (values : List Bytes) (request : Request) (now : String) :
    ∃ binding, bound.shape.traits.http? = .ok (some binding) ∧
      ((∃ contentType, handle server bound endpoint values request now = .brokeOff contentType) ↔
        Dropped server bound endpoint values request) ∧
      ((∃ fault, handle server bound endpoint values request now =
          .answered (failure 400 fault)) ↔
        Refused server bound endpoint values request) ∧
      ((∃ fault, handle server bound endpoint values request now =
          .answered (failure 500 fault)) ↔
        ¬Dropped server bound endpoint values request ∧
          ¬Refused server bound endpoint values request ∧ Unsynthesized server bound) ∧
      (¬Dropped server bound endpoint values request →
        ¬Refused server bound endpoint values request →
        ∀ output, Output server bound output →
          handle server bound endpoint values request now =
            .answered (success binding.code now output)) ∧
      (∀ value, Output server bound (some value) →
        Json.read? (value.json now) = some (value.toJson now)) ∧
      ∃ after, Walk.Ends (walkOfStructure server.mocks · bound.operation.output)
        (server.mocks.start bound.operation.output)
        (server.mocks.ofStructure bound.operation.output) after := by
  rcases of_build built with ⟨ofModel, ofMocks, ofRoutes⟩
  rcases ofRoutes bound isRoute with ⟨isShape, binding, decoded, code⟩
  have status : isStatus bound.code = true := by
    rw [code]
    exact valid bound.shape isShape binding decoded
  have outcomes := @handle_cases server bound endpoint values request status now
  refine ⟨binding, decoded, ⟨?_, fun dropped => ⟨"", dropped.handle now⟩⟩,
    ⟨?_, fun refused => refused.handle now⟩, ⟨?_, ?_⟩, ?_, ?_, ?_⟩
  · rintro ⟨contentType, broke⟩
    rcases outcomes with ⟨dropped, -⟩ | ⟨-, fault, handled⟩ | ⟨-, -, -, fault, handled⟩ |
      ⟨output, -, handled⟩
    · exact dropped
    all_goals cases broke.symm.trans handled
  · rintro ⟨fault, refused⟩
    rcases outcomes with ⟨-, broke⟩ | ⟨isRefused, -⟩ | ⟨-, -, -, cause, handled⟩ |
      ⟨output, isOutput, handled⟩
    · cases refused.symm.trans broke
    · exact isRefused
    · exact absurd (failure_status_inj (refused.symm.trans handled)) (by decide)
    · exact absurd (Handled.answered.inj (handled.symm.trans refused))
        (success_ne_failure isOutput _ _ _ _)
  · rintro ⟨fault, failed⟩
    rcases outcomes with ⟨-, broke⟩ | ⟨-, cause, handled⟩ |
      ⟨kept, accepted, unsynthesized, -⟩ | ⟨output, isOutput, handled⟩
    · cases failed.symm.trans broke
    · exact absurd (failure_status_inj (failed.symm.trans handled)) (by decide)
    · exact ⟨kept, accepted, unsynthesized⟩
    · exact absurd (Handled.answered.inj (handled.symm.trans failed))
        (success_ne_failure isOutput _ _ _ _)
  · rintro ⟨kept, accepted, unsynthesized⟩
    rw [handle_of_accepted kept accepted]
    exact unsynthesized.answer now
  · intro kept accepted output isOutput
    rw [handle_of_accepted kept accepted, answer_of_output isOutput status, code]
  · intro value isOutput
    cases isOutput with
    | value isData synthesized =>
        exact (Mocks.renderable_of_ofStructure synthesized).read?_json now
  · apply Mocks.ends_walkOfStructure
    rw [ofMocks]
    exact grounded

/-! A depot with one operation: items are fetched by a label of the path, and the answer is an
instance of a structure. -/

namespace Depot

def key : Member where
  name := "id"
  container := ⟨"depot#Fetch"⟩
  target := ⟨"smithy.api#String"⟩
  traits := [⟨⟨"smithy.api#required"⟩, "\x7b\x7d"⟩, ⟨⟨"smithy.api#httpLabel"⟩, "\x7b\x7d"⟩]

def closed : Member where
  name := "closed"
  container := ⟨"depot#Item"⟩
  target := ⟨"smithy.api#Timestamp"⟩

def input : Shape where
  id := ⟨"depot#Fetch"⟩
  body := .structure [key]

def output : Shape where
  id := ⟨"depot#Item"⟩
  body := .structure [closed]

def operation : Operation where
  input := ⟨"depot#Fetch"⟩
  output := ⟨"depot#Item"⟩

def fetch : Shape where
  id := ⟨"depot#FetchItem"⟩
  traits := [⟨⟨"smithy.api#http"⟩,
    "\x7b\"method\":\"GET\",\"uri\":\"/items/\x7bid\x7d\",\"code\":203\x7d"⟩]
  body := .operation operation

def service : Service where
  version := "1"
  operations := [⟨"depot#FetchItem"⟩]

def serviceShape : Shape where
  id := ⟨"depot#Depot"⟩
  body := .service service

def model : Model where
  version := "2.0"
  shapes := [input, output, fetch, serviceShape]

def bound : BoundOperation where
  shape := fetch
  operation := operation
  method := "GET"
  pattern := "/items/\x7bid\x7d"
  code := 203
  greedy := ""

def binding : HttpBinding where
  method := "GET"
  uri := "/items/\x7bid\x7d"
  code := 203

/-- How the texts of the depot are read: its binding, its patterns, and what is sent to it. -/
theorem texts_read :
    (fetch.traits.http?.toOption = some (some binding) ∧
      (RoutePattern.parse metricsPath).toOption =
        some { segments := (bytesOf metricsPath).map .static, names := [] } ∧
      (RoutePattern.parse bound.pattern).toOption =
        some { segments := (bytesOf "/items/").map .static ++ [.param slash], names := ["id"] }) ∧
    ((bytesOf "7").isEmpty = false ∧ textOf (bytesOf "7") = "7") ∧
    bodyText (bytesOf "null") = "null" ∧ bodyText (bytesOf "\x7b\x7d") = "\x7b\x7d" ∧
      bodyText (bytesOf "[") = "[" := by
  decide +kernel

theorem http?_fetch : fetch.traits.http? = .ok (some binding) :=
  eq_ok_of_toOption texts_read.1.1

theorem bind?_fetch : bind? (fetch, operation) = .ok (some bound) := by
  have method : Route.normalizeMethod fetch.id binding.method = .ok "GET" := rfl
  have pattern : Route.serverPattern binding.path = (bound.pattern, bound.greedy) := rfl
  simp only [bind?, http?_fetch, method, pattern, bind, Except.bind]
  rfl

theorem exists_tree {pattern : String} {parsed : RoutePattern}
    (isParsed : RoutePattern.parse pattern = .ok parsed)
    (tree : RouteTree Handler) (methods : List String) (target : Handler) :
    ∃ grown, register tree methods pattern target = .ok grown := by
  rw [register, isParsed]
  exact ⟨_, rfl⟩

theorem exists_server : ∃ server, build model ⟨""⟩ 1 5 = .ok server ∧ server.routes = [bound] := by
  have own : model.addOperations [] service.operations = .ok [(fetch, operation)] := rfl
  have operations : model.serviceOperations service = .ok [(fetch, operation)] := by
    rw [Model.serviceOperations, own]
    simp [bind, Except.bind, service, Model.walkResources]
  have selected : selectService model ⟨""⟩ = .ok (serviceShape, service) := rfl
  rcases texts_read.1 with ⟨-, metrics, items⟩
  rcases exists_tree (eq_ok_of_toOption metrics) .empty knownMethods .metrics with
    ⟨first, isFirst⟩
  rcases exists_tree (eq_ok_of_toOption items) first [bound.method] (.operation bound) with
    ⟨second, isSecond⟩
  have built : build model ⟨""⟩ 1 5 =
      .ok { model, service := serviceShape.id, mocks := { model, seed := 1, listSize := 5 }
            routes := [bound], tree := second } := by
    simp only [build, selected, operations, isFirst, registerAll, bind?_fetch, isSecond, bind,
      Except.bind, Except.mapError]
    rfl
  exact ⟨_, built, rfl⟩

def endpoint : Endpoint Handler where
  target := .operation bound
  pattern := bound.pattern
  names := ["id"]

def requestWith (body : String) : Request where
  method := "GET"
  target := { path := bytesOf "/items/7", routed := bytesOf "/items/7", query := [] }
  body := .ok (bytesOf body)

theorem supplied_key (body : String) :
    supplied bound endpoint [bytesOf "7"] (requestWith body) input = [("id", .string "7")] := by
  have isLabel : key.traits.isLabel = true := rfl
  have parameter : pathParam endpoint [bytesOf "7"] "id" = bytesOf "7" := rfl
  rcases texts_read.2.1 with ⟨given, text⟩
  have named : key.jsonName = "id" := rfl
  have label : (if key.name == bound.greedy then "*" else key.name) = "id" := by decide
  change [key].filterMap (urlMember? bound endpoint [bytesOf "7"] _) = _
  simp only [List.filterMap_cons, List.filterMap_nil, urlMember?, isLabel, label, parameter, given,
    text, named, if_true, Bool.false_eq_true, if_false]

theorem decodes_null : Decodes (bytesOf "null") none := by
  rcases texts_read.2.2 with ⟨text, -, -⟩
  refine .null ?_ ?_
  · rw [text]
    decide
  · rw [text]
    rfl

theorem decodes_empty : Decodes (bytesOf "\x7b\x7d") (some []) := by
  rcases texts_read.2.2 with ⟨-, text, -⟩
  refine .object ?_ ?_ rfl ?_
  · rw [text]
    decide
  · rw [text]
    rfl
  · decide

theorem undecodable_bracket (body : Option (List (String × Json))) :
    ¬Decodes (bytesOf "[") body := by
  rcases texts_read.2.2 with ⟨-, -, text⟩
  have unread : Json.read? "[" = none := rfl
  intro decodes
  cases decodes with
  | blank nothing =>
    rw [text] at nothing
    revert nothing
    decide
  | object _ read | null _ read =>
    rw [text, unread] at read
    cases read

/-- The instance of the output: its only field is a time, for which nothing is drawn. -/
def item : MockValue :=
  .structure ⟨"depot#Item"⟩ [(closed, .timestamp ⟨"smithy.api#Timestamp"⟩ (some .timestamp))]

theorem ofStructure_item :
    Mocks.ofStructure { model, seed := 1, listSize := 5 } bound.operation.output = .ok item := by
  have resolved : model.resolveStructure bound.operation.output = .ok output := rfl
  have type : model.classifyMember closed =
      .ok (.primitive ⟨"smithy.api#Timestamp"⟩ .timestamp) := rfl
  have members : output.members = [closed] := rfl
  rw [Mocks.ofStructure_eq, resolved]
  simp only [Except.bind, members, Mocks.structureFields, Mocks.memberValue_eq type]
  rfl

theorem json_item : item.json "now" = "\x7b\"closed\":\"now\"\x7d" :=
  rfl

theorem valid_codes :
    ∀ shape ∈ model.shapes, ∀ binding, shape.traits.http? = .ok (some binding) →
      isStatus binding.code = true := by
  have only : ∀ shape ∈ model.shapes, shape = fetch ∨ shape.traits.http? = .ok none := by
    intro shape isShape
    simp only [model, List.mem_cons, List.not_mem_nil, or_false] at isShape
    rcases isShape with rfl | rfl | rfl | rfl
    · exact Or.inr rfl
    · exact Or.inr rfl
    · exact Or.inl rfl
    · exact Or.inr rfl
  intro shape isShape binding decoded
  rcases only shape isShape with rfl | unbound
  · rw [http?_fetch] at decoded
    cases decoded
    rfl
  · cases unbound.symm.trans decoded

theorem grounded_model : model.Grounded :=
  Model.grounded_of_rank (fun _ => 0) (by decide)

section Served

variable {server : Server}

theorem kept_empty : ¬Dropped server bound endpoint [bytesOf "7"] (requestWith "\x7b\x7d") := by
  rintro ⟨-, ⟨data, given, decodes⟩, -⟩
  cases given
  cases (decodeBody_eq_ok.mpr decodes).symm.trans (decodeBody_eq_ok.mpr decodes_empty)

variable (ofModel : server.model = model)
include ofModel

theorem resolved_input : server.model.resolveStructure bound.operation.input = .ok input := by
  rw [ofModel]
  rfl

theorem merged_empty :
    Merged server bound endpoint [bytesOf "7"] (requestWith "\x7b\x7d")
      (some [("id", .string "7")]) := by
  rw [← supplied_key "\x7b\x7d"]
  exact .members rfl decodes_empty (resolved_input ofModel)

theorem accepted_empty : ¬Refused server bound endpoint [bytesOf "7"] (requestWith "\x7b\x7d") := by
  have instanceOf : Validation.checkInstance model bound.operation.input
      (.object [("id", .string "7")]) = .ok () := rfl
  rintro ⟨-, unresolved | undecodable | ⟨fields, fault, merged, rejected⟩⟩
  · exact unresolved input (resolved_input ofModel)
  · exact undecodable _ _ rfl decodes_empty
  · cases merged.requestInstance.symm.trans (merged_empty ofModel).requestInstance
    rw [ofModel] at rejected
    cases rejected.symm.trans instanceOf

end Served

end Depot

open Depot in
theorem routed_requests_answered_depot :
    ∃ server, build model ⟨""⟩ 1 5 = .ok server ∧ bound ∈ server.routes ∧
      handle server bound endpoint [bytesOf "7"] (requestWith "\x7b\x7d") "now" =
        .answered { status := 203, contentType := "application/json"
                    body := "\x7b\"closed\":\"now\"\x7d" } ∧
      ∃ fault, handle server bound endpoint [bytesOf "7"] (requestWith "[") "now" =
        .answered (failure 400 fault) := by
  rcases exists_server with ⟨server, built, routes⟩
  have isRoute : bound ∈ server.routes := by
    rw [routes]
    exact List.mem_singleton_self bound
  rcases of_build built with ⟨ofModel, ofMocks, -⟩
  have isOutput : Output server bound (some item) := by
    refine .value (by decide) ?_
    rw [ofMocks]
    exact ofStructure_item
  rcases routed_requests_answered built isRoute valid_codes grounded_model endpoint [bytesOf "7"]
    (requestWith "\x7b\x7d") "now" with ⟨given, decoded, -, -, -, answered, -⟩
  rcases routed_requests_answered built isRoute valid_codes grounded_model endpoint [bytesOf "7"]
    (requestWith "[") "now" with ⟨-, -, -, refused, -⟩
  cases decoded.symm.trans http?_fetch
  refine ⟨server, built, isRoute, ?_, refused.mpr ⟨by decide, Or.inr (Or.inl ?_)⟩⟩
  · rw [answered kept_empty (accepted_empty ofModel) _ isOutput, ← json_item]
    rfl
  · rintro data body ⟨⟩
    exact undecodable_bracket body

open Depot in
/-- With the body `null` the label of the path cannot be put into the instance. -/
theorem routed_request_breaks_off_depot :
    ∃ server, build model ⟨""⟩ 1 5 = .ok server ∧ bound ∈ server.routes ∧
      handle server bound endpoint [bytesOf "7"] (requestWith "null") "now" = .brokeOff "" := by
  rcases exists_server with ⟨server, built, routes⟩
  rcases of_build built with ⟨ofModel, -, -⟩
  have dropped : Dropped server bound endpoint [bytesOf "7"] (requestWith "null") := by
    refine ⟨by decide, ⟨_, rfl, decodes_null⟩, ⟨_, resolved_input ofModel, ?_⟩⟩
    rw [supplied_key]
    exact List.cons_ne_nil _ _
  refine ⟨server, built, ?_, dropped.handle "now"⟩
  rw [routes]
  exact List.mem_singleton_self bound

end ShapeForge.Server
