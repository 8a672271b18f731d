import ShapeForge.Text.Order

/-!
# Request metrics

Requests are counted by method, route and status, and their durations by method and route.
-/

namespace ShapeForge.Server

structure Counter where
  labels : List String
  count : Nat
  deriving DecidableEq, Repr, Inhabited

abbrev Counters := List Counter

def increment (labels : List String) : Counters → Counters
  | [] => [⟨labels, 1⟩]
  | counter :: rest =>
    if labels == counter.labels then ⟨labels, counter.count + 1⟩ :: rest
    else if labels < counter.labels then ⟨labels, 1⟩ :: counter :: rest
    else counter :: increment labels rest

structure Metrics where
  requests : Counters := []
  durations : Counters := []
  deriving DecidableEq, Repr, Inhabited

def escapeLabel (value : String) : String :=
  "".intercalate (value.toList.map fun c =>
    if c == '\\' then "\\\\" else if c == '\n' then "\\n" else if c == '"' then "\\\""
    else String.singleton c)

def counterLine (name : String) (labelNames : List String) (counter : Counter) : String :=
  let labels := (labelNames.zip counter.labels).map fun (label, value) =>
    label ++ "=\"" ++ escapeLabel value ++ "\""
  name ++ "\x7b" ++ ",".intercalate labels ++ "\x7d " ++ toString counter.count

namespace Metrics

def observe (metrics : Metrics) (method route : String) (status : Int) : Metrics :=
  { requests := increment [method, route, toString status] metrics.requests
    durations := increment [method, route] metrics.durations }

def lines (metrics : Metrics) : List String :=
  metrics.durations.map (counterLine "smithygen_mock_request_duration_seconds_count"
    ["method", "route"]) ++
  metrics.requests.map (counterLine "smithygen_mock_requests_total"
    ["method", "route", "status"])

end Metrics

end ShapeForge.Server
