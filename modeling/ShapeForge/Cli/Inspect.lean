import ShapeForge.Cli.Screen
import ShapeForge.Structured
import ShapeForge.Summary
import ShapeForge.Table

/-!
# Looking at models

The commands that show a summary of a model or an instance of one of its shapes.
-/

namespace ShapeForge.Cli

def loadModel (desk : Desk) (path : String) : Job LoadedModel := do
  let loaded ← Job.check ((LoadedModel.ofFile (← get).tree path true).mapError
    (.context ("loading " ++ path)))
  Job.note desk .debug "loaded model"
    [("source", .string loaded.sourcePath), ("shapes", .int loaded.model.size),
      ("namespaces", .int loaded.model.namespaces.length)]
  return loaded

structure ModelSummary where
  source : String
  version : String
  shapes : Nat
  namespaces : List String
  kinds : List Listing.Group
  services : List ServiceSummary

namespace ModelSummary

def ofLoaded (loaded : LoadedModel) : Except Fault ModelSummary := do
  let model := loaded.model
  return { source := loaded.sourcePath, version := loaded.version, shapes := model.size
           namespaces := model.namespaces, kinds := model.kindCounts
           services := ← model.services.mapM (ServiceSummary.ofService model) }

/-- A list, where an empty one is shown in its own way. -/
def listOr {α : Type} (empty : Json) (json : α → Json) (items : List α) : Json :=
  if items.isEmpty then empty else .array (items.map json)

def textField (name text : String) : List (String × Json) :=
  if text.isEmpty then [] else [(name, .string text)]

def kindJson (group : Listing.Group) : Json :=
  .object [("kind", .string group.key), ("count", .nat group.count)]

def operationJson (operation : OperationSummary) : Json :=
  .object ([("id", .string operation.id.text)] ++
    match operation.route with
    | none => []
    | some route =>
      textField "method" route.method ++ textField "uri" route.uri ++
        if route.code == 0 then [] else [("code", .int route.code)])

def serviceJson (empty : Json) (service : ServiceSummary) : Json :=
  .object ([("id", .string service.id.text)] ++ textField "version" service.version ++
    [("operations", listOr empty operationJson service.operations)])

/-- The summary as data; what stands for an empty list depends on the format. -/
def json (empty : Json) (summary : ModelSummary) : Json :=
  .object ([("source", .string summary.source), ("version", .string summary.version),
    ("shapes", .nat summary.shapes), ("namespaces", .strings summary.namespaces),
    ("kinds", listOr empty kindJson summary.kinds)] ++
    if summary.services.isEmpty then []
    else [("services", .array (summary.services.map (serviceJson empty)))])

def operationRow (operation : OperationSummary) : List String :=
  match operation.route with
  | none => ["", "", "", operation.id.text]
  | some route =>
    [route.method, route.uri, if route.code == 0 then "" else toString route.code,
      operation.id.text]

def serviceText (service : ServiceSummary) : String :=
  "\nService " ++ service.id.text ++
    (if service.version.isEmpty then "" else " (version " ++ service.version ++ ")") ++ "\n" ++
    Table.render "  " (service.operations.map operationRow)

def text (summary : ModelSummary) : String :=
  "Model: " ++ summary.source ++ "\nSmithy version: " ++ summary.version ++ "\nShapes: " ++
    toString summary.shapes ++ "\n" ++
    Table.render "  " (summary.kinds.map fun group => [group.key, toString group.count]) ++
    "Namespaces:\n" ++ String.join (summary.namespaces.map fun space => "  " ++ space ++ "\n") ++
    String.join (summary.services.map serviceText)

def write (summary : ModelSummary) (format : String) : Except Fault String :=
  if format == "text" then .ok summary.text
  else Structured.write (summary.json .null) (summary.json (.array [])) format

end ModelSummary

def inspect (desk : Desk) (format path : String) : Job Unit := do
  Job.check (Structured.checkFormat format)
  let loaded ← loadModel desk path
  let summary ← Job.check (ModelSummary.ofLoaded loaded)
  Job.print (← Job.check (summary.write format))

def mock (desk : Desk) (format path shape : String) : Job Unit := do
  let format := if format == "text" then "json" else format
  Job.check (Structured.checkFormat format)
  let id ← Job.check ((ShapeId.parse shape).mapError fun problem =>
    .hinted "shape ids look like namespace#Name" (.malformedId problem shape))
  let loaded ← loadModel desk path
  let mocks : Mocks :=
    { model := loaded.model, seed := desk.config.seed, listSize := desk.config.listSize.toNat }
  let data := match ← Job.check (mocks.synthesize id) with
    | some value => (Json.read? (value.json desk.surroundings.now)).getD .null
    | none => .null
  Job.print (← Job.check (Structured.writeData data format))

end ShapeForge.Cli
