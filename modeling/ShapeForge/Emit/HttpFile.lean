import ShapeForge.Emit.ServiceFile
import ShapeForge.Route

/-!
# HTTP handlers

A service with operations bound to HTTP gets a handler.  Members of the input that are bound to
labels or to the query are parsed from the URL, all others come from the body.
-/

namespace ShapeForge.Emit

open ShapeForge.Code (Item)

inductive ParamSource where
  | label (name : String)
  | query (name : String)
  deriving DecidableEq, Repr, Inhabited

structure HttpParam where
  name : String
  field : String
  type : String
  source : ParamSource
  deriving DecidableEq, Repr, Inhabited

namespace HttpParam

def isLabel (param : HttpParam) : Bool :=
  match param.source with
  | .label name => !name.isEmpty
  | .query _ => false

/-- The type under which a handler takes the parameter; one from the query may be absent. -/
def declared (param : HttpParam) : String :=
  if param.isLabel then param.type else "*" ++ param.type

end HttpParam

structure HttpOperation where
  shape : Shape
  operation : Operation
  method : String
  binding : HttpBinding
  params : List HttpParam

def isBindable : TypeRef → Bool
  | .enumeration _ _ _ => true
  | .primitive _ kind => kind != .blob
  | .simple _ kind => kind != .blob
  | _ => false

def braced (label : String) : String :=
  "\x7b" ++ label ++ "\x7d"

def warnLabels (emitter : Emitter) (shape : Shape) (problem : String) (labels : List String) :
    Build Unit := do
  let _ ← Build.each (fun label =>
    emitter.shapeIssue shape ("URI label " ++ braced label ++ problem) .warning) labels
  return ()

def memberParam (emitter : Emitter) (input : Shape) (labels : List String) (member : Member) :
    Build (Option HttpParam) := do
  let isLabel := member.traits.isLabel
  let query := member.traits.query?
  if !isLabel && query.isNone then return none
  if isLabel && !labels.contains member.name then
    emitter.shapeIssue input ("member " ++ member.name ++ " is an httpLabel but the URI has no " ++
      braced member.name) .warning
    return none
  let type ← Build.check (emitter.model.classifyMember member)
  if !isBindable type then
    emitter.shapeIssue input ("member " ++ member.name ++ " (" ++ type.category ++
      ") cannot be bound from the URL; it is read from the body") .warning
    return none
  let typeText ← Build.emit (emitter.scope.typeExpr type)
  return some
    { name := Naming.handlerParam member.name
      field := Naming.memberField input member
      type := typeText
      source := if isLabel then .label member.name else .query (query.getD "") }

def boundLabel? (param : HttpParam) : Option String :=
  match param.source with
  | .label name => some name
  | .query _ => none

def httpParams (emitter : Emitter) (shape : Shape) (operation : Operation)
    (binding : HttpBinding) : Build (List HttpParam) := do
  let labels := binding.labels
  if operation.input.isUnit then
    warnLabels emitter shape " has no input member" labels
    return []
  let input ← Build.check (emitter.model.resolveStructure operation.input)
  let params ← Build.each (memberParam emitter input labels) input.members
  let params := params.filterMap id
  let bound := params.filterMap boundLabel?
  warnLabels emitter shape " is not bound to an input member"
    (labels.filter (!bound.contains ·))
  return params

def httpOperation (emitter : Emitter) (item : Shape × Operation) :
    Build (Option HttpOperation) := do
  let (shape, operation) := item
  match ← Build.check shape.traits.http? with
  | none => return none
  | some binding =>
    let method ← Build.check (Route.normalizeMethod shape.id binding.method)
    let params ← httpParams emitter shape operation binding
    return some { shape, operation, method, binding, params }

def httpOperations (emitter : Emitter) (info : ServiceInfo) : Build (List HttpOperation) := do
  let operations ← Build.each (httpOperation emitter) info.operations
  return operations.filterMap id

def handlerName (interface : String) : String :=
  interface ++ "HTTPHandler"

/-- The registrations of routes; one that is already taken is left out with a warning. -/
def registrations (emitter : Emitter) (taken : List String) :
    List HttpOperation → Build String
  | [] => return ""
  | bound :: rest => do
    let pattern := Route.pattern bound.method bound.binding
    if taken.contains pattern then
      emitter.shapeIssue bound.shape ("route " ++ Text.quote pattern ++
        " is already registered; operation not routed") .warning
      registrations emitter taken rest
    else
      return "mux.HandleFunc(" ++ Text.quote pattern ++ ", h.route" ++
        Naming.declName bound.shape.id ++ ")\n" ++
        (← registrations emitter (pattern :: taken) rest)

def badRequestBlock : String :=
  "\x7b\nwriteHTTPError(w, http.StatusBadRequest, err)\nreturn\n\x7d\n"

def parseParam (param : HttpParam) : String :=
  match param.source, param.isLabel with
  | .label name, true =>
    "var " ++ param.name ++ " " ++ param.type ++ "\n" ++
    "if err := bindHTTPParam(r.PathValue(" ++ Text.quote name ++ "), &" ++ param.name ++
    "); err != nil " ++ badRequestBlock
  | .label name, false | .query name, _ =>
    "var " ++ param.name ++ " *" ++ param.type ++ "\n" ++
    "if raw := r.URL.Query().Get(" ++ Text.quote name ++ "); raw != \"\" \x7b\n" ++
    param.name ++ " = new(" ++ param.type ++ ")\n" ++
    "if err := bindHTTPParam(raw, " ++ param.name ++ "); err != nil " ++ badRequestBlock ++
    "\x7d\n"

def setParam (param : HttpParam) : String :=
  "input." ++ param.field ++ " = " ++ (if param.isLabel then "&" else "") ++ param.name ++ "\n"

def routeItems (handler method : String) (params : List HttpParam) : List Item :=
  [.blank,
    .method ("h *" ++ handler) ("route" ++ method)
      ("(w http.ResponseWriter, r *http.Request) \x7b\n" ++
        "".intercalate (params.map parseParam) ++
        "h." ++ method ++ "(" ++ ", ".intercalate ("w" :: "r" :: params.map (·.name)) ++
        ")\n\x7d")]

/-- The method that takes the parameters of an operation and calls the service. -/
def handlerMethod (handler method input : String) (bound : HttpOperation) : List Item :=
  let parameters := "w http.ResponseWriter" :: "r *http.Request" ::
    bound.params.map fun param => param.name ++ " " ++ param.declared
  [.blank,
    .comment [" " ++ method ++ " handles " ++ bound.method ++ " " ++ bound.binding.uri ++ "."],
    .method ("h *" ++ handler) method
      ("(" ++ ", ".intercalate parameters ++ ") \x7b\n" ++
        "input := &" ++ input ++ "\x7b\x7d\n" ++
        (if bound.operation.input.isUnit then ""
        else "if err := decodeHTTPBody(r, input); err != nil " ++ badRequestBlock ++
          "".intercalate (bound.params.map setParam) ++
          "if err := input.Validate(); err != nil " ++ badRequestBlock) ++
        "output, err := h.Service." ++ method ++ "(r.Context(), input)\n" ++
        "if err != nil \x7b\nwriteHTTPError(w, httpErrorStatus(err), err)\nreturn\n\x7d\n" ++
        "writeHTTPJSON(w, " ++ toString bound.binding.code ++ ", output)\n\x7d")]

def operationItems (emitter : Emitter) (handler : String) (bound : HttpOperation) :
    Build (List Item) := do
  let method := Naming.declName bound.shape.id
  let (input, _) ← signature emitter bound.operation
  return routeItems handler method bound.params ++ handlerMethod handler method input bound

def handlerItems (emitter : Emitter) (info : ServiceInfo) (operations : List HttpOperation) :
    Build (List Item) := do
  let handler := handlerName info.name
  let routes ← registrations emitter [] operations
  let methods ← Build.each (operationItems emitter handler) operations
  return [.comment
      [" " ++ handler ++ " serves " ++ info.name ++
          " over HTTP. Label and query members are bound from the",
        " request URL; all other input members are decoded from the JSON body."],
    .type handler ("struct \x7b\nService " ++ info.name ++ "\n\x7d"),
    .blank,
    .comment [" " ++ constructorName handler ++ " returns a handler serving svc."],
    .func (constructorName handler) ("(svc " ++ info.name ++ ") *" ++ handler ++
      " \x7b\nreturn &" ++ handler ++ "\x7bService: svc\x7d\n\x7d"),
    .blank,
    .comment [" RegisterRoutes registers every HTTP-bound operation of " ++ info.name ++
      " on mux."],
    .method ("h *" ++ handler) "RegisterRoutes"
      ("(mux *http.ServeMux) \x7b\n" ++ routes ++ "\x7d")] ++
    methods.flatten ++ [.blank]

def httpImports : List String :=
  ["encoding/json", "errors", "fmt", "io", "net/http", "reflect", "strconv", "time"]

def httpHelpers : List Item :=
  let lines (texts : List String) : String := "\n".intercalate texts
  [.comment
      [" decodeHTTPBody decodes a JSON request body into dst. An empty body leaves",
        " dst unchanged."],
    .func "decodeHTTPBody" (lines
      ["(r *http.Request, dst any) error \x7b",
        "\tif r.Body == nil \x7b",
        "\t\treturn nil",
        "\t\x7d",
        "\terr := json.NewDecoder(r.Body).Decode(dst)",
        "\tif errors.Is(err, io.EOF) \x7b",
        "\t\treturn nil",
        "\t\x7d",
        "\treturn err",
        "\x7d"]),
    .blank,
    .comment
      [" bindHTTPParam parses a label or query value into dst, a pointer to a",
        " string, integer, float, boolean or time based value."],
    .func "bindHTTPParam" (lines
      ["(raw string, dst any) error \x7b",
        "\tv := reflect.ValueOf(dst).Elem()",
        "\tswitch v.Kind() \x7b",
        "\tcase reflect.String:",
        "\t\tv.SetString(raw)",
        "\tcase reflect.Int, reflect.Int8, reflect.Int16, reflect.Int32, reflect.Int64:",
        "\t\tn, err := strconv.ParseInt(raw, 10, v.Type().Bits())",
        "\t\tif err != nil \x7b",
        "\t\t\treturn err",
        "\t\t\x7d",
        "\t\tv.SetInt(n)",
        "\tcase reflect.Float32, reflect.Float64:",
        "\t\tf, err := strconv.ParseFloat(raw, v.Type().Bits())",
        "\t\tif err != nil \x7b",
        "\t\t\treturn err",
        "\t\t\x7d",
        "\t\tv.SetFloat(f)",
        "\tcase reflect.Bool:",
        "\t\tb, err := strconv.ParseBool(raw)",
        "\t\tif err != nil \x7b",
        "\t\t\treturn err",
        "\t\t\x7d",
        "\t\tv.SetBool(b)",
        "\tdefault:",
        "\t\ttimeType := reflect.TypeOf(time.Time\x7b\x7d)",
        "\t\tif !v.Type().ConvertibleTo(timeType) \x7b",
        "\t\t\treturn fmt.Errorf(\"cannot bind %q to %s\", raw, v.Type())",
        "\t\t\x7d",
        "\t\tt, err := time.Parse(time.RFC3339, raw)",
        "\t\tif err != nil \x7b",
        "\t\t\treturn err",
        "\t\t\x7d",
        "\t\tv.Set(reflect.ValueOf(t).Convert(v.Type()))",
        "\t\x7d",
        "\treturn nil",
        "\x7d"]),
    .blank,
    .comment [" writeHTTPJSON writes v as a JSON response with the given status."],
    .func "writeHTTPJSON" (lines
      ["(w http.ResponseWriter, status int, v any) \x7b",
        "\tw.Header().Set(\"Content-Type\", \"application/json\")",
        "\tw.WriteHeader(status)",
        "\t_ = json.NewEncoder(w).Encode(v)",
        "\x7d"]),
    .blank,
    .comment
      [" httpErrorStatus maps an error returned by a service to a status code.",
        " Generated error types report their own status."],
    .func "httpErrorStatus" (lines
      ["(err error) int \x7b",
        "\tvar status interface\x7b HTTPStatus() int \x7d",
        "\tif errors.As(err, &status) \x7b",
        "\t\treturn status.HTTPStatus()",
        "\t\x7d",
        "\treturn http.StatusInternalServerError",
        "\x7d"]),
    .blank,
    .comment [" writeHTTPError writes err as a JSON error response."],
    .func "writeHTTPError" (lines
      ["(w http.ResponseWriter, status int, err error) \x7b",
        "\twriteHTTPJSON(w, status, map[string]string\x7b\"error\": err.Error()\x7d)",
        "\x7d"])]

def httpBody (emitter : Emitter) (services : List ServiceInfo) :
    Build (Option (List Item)) := do
  let bound ← Build.each (httpOperations emitter) services
  if bound.all (·.isEmpty) then return none
  let _ ← Build.each (fun path => Build.emit (Emission.use path)) httpImports
  let handlers ← Build.each (fun (info, operations) => handlerItems emitter info operations)
    ((services.zip bound).filter (!·.2.isEmpty))
  return some (handlers.flatten ++ httpHelpers)

end ShapeForge.Emit
