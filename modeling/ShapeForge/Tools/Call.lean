import ShapeForge.Emit.Request
import ShapeForge.Emit.Write
import ShapeForge.Glob
import ShapeForge.Json.Double
import ShapeForge.Tools.Answer
import ShapeForge.Tools.Arguments
import ShapeForge.Tools.Privacy
import ShapeForge.Validation.Instance

/-!
# The tools

A tool looks at a model, generates its packages, or makes or checks an instance of one of its
shapes.  Calls share the files and the cache of loaded models.
-/

namespace ShapeForge.Tools

structure Moment where
  nanoseconds : Int
  text : String

structure Desk where
  tree : FileTree := {}
  cache : ModelCache

abbrev Work (α : Type) := ExceptT Fault (StateM Desk) α

namespace Work

def check {α : Type} (result : Except Fault α) : Work α :=
  match result with
  | .ok value => pure value
  | .error fault => throw fault

def load (settings : Settings) (now : Moment) (input : ModelInput) : Work LoadedModel := do
  let desk ← get
  let (result, cache) := input.resolve settings desk.tree now.nanoseconds desk.cache
  set { desk with cache }
  check result

def identifier (text : String) : Work ShapeId :=
  check ((ShapeId.parse text).mapError fun problem => .malformedId problem text)

end Work

def InspectArguments.selects (arguments : InspectArguments) (shape : Shape) : Bool :=
  (arguments.space.isEmpty || shape.id.nameSpace == arguments.space) &&
  (arguments.kind.isEmpty || Text.equalFold shape.kind.name arguments.kind) &&
  Glob.selects arguments.name shape.id.name

def ShapeSummary.ofShape (shape : Shape) : ShapeSummary :=
  { id := shape.id, kind := shape.kind.name, line := shape.line
    documentation := shape.traits.documentation }

def groupKey (groupBy : String) (summary : ShapeSummary) : String :=
  if Text.equalFold groupBy "kind" then summary.kind else summary.id.nameSpace

def inspectModel (limits : Listing.Limits) (arguments : InspectArguments)
    (loaded : LoadedModel) : Except Fault InspectAnswer := do
  let model := loaded.model
  let services ← (model.services.filter fun (shape, _) =>
    arguments.space.isEmpty || shape.id.nameSpace == arguments.space).mapM
      (ServiceSummary.ofService model)
  let matched := (model.shapes.filter arguments.selects).map ShapeSummary.ofShape
  let answer : InspectAnswer :=
    { version := loaded.version, shapeCount := model.size, namespaces := model.namespaces
      services, matched := matched.length }
  if arguments.groupBy.isEmpty then
    let page := Listing.page? limits matched arguments.offset arguments.limit
    return { answer with shapes := page.getD [] }
  else
    return { answer with groups := Listing.countBy matched (groupKey arguments.groupBy) }

def inspect (settings : Settings) (now : Moment) (arguments : InspectArguments) : Work Answer := do
  Work.check (Listing.checkGroupBy arguments.groupBy ["kind", "namespace"])
  Work.check (Glob.check arguments.name)
  let loaded ← Work.load settings now arguments.model
  let answer ← Work.check (inspectModel settings.limits arguments loaded)
  return .inspect answer

def generateOptions (settings : Settings) (arguments : GenerateArguments)
    (loaded : LoadedModel) : List Emit.GenerateOption :=
  [.loaded (some loaded),
    .servicePolicy (if arguments.policy.isEmpty then settings.policy.name else arguments.policy),
    .mockSeed (arguments.seed.getD settings.seed), .mockListSize settings.listSize,
    .strict (arguments.strict || settings.strict), .includeInfo false] ++
  (if arguments.modulePath.isEmpty then [] else [.modulePath arguments.modulePath]) ++
  (if arguments.namespaces.isEmpty then [] else [.namespaces arguments.namespaces])

def generate (settings : Settings) (now : Moment) (arguments : GenerateArguments) :
    Work Answer := do
  if arguments.output.isEmpty then throw (.plain "output_dir is required")
  let loaded ← Work.load settings now arguments.model
  let desk ← get
  let (result, failure) ← Work.check
    (Emit.generate desk.tree (generateOptions settings arguments loaded))
  match failure with
  | some fault => throw fault
  | none =>
    let (written, tree) := (Emit.writePackages arguments.output result.packages).on desk.tree
    set { desk with tree }
    Work.check (written.mapError (.context "failed to write generated files"))
    return .generate arguments.output result

def valueOf (now : Moment) (value : Option MockValue) : Json :=
  match value with
  | some value => ((Json.read? (value.json now.text)).getD .null).inDouble
  | none => .null

def mock (settings : Settings) (now : Moment) (arguments : MockArguments) : Work Answer := do
  let id ← Work.identifier arguments.shape
  let loaded ← Work.load settings now arguments.model
  let seed := arguments.seed.getD settings.seed
  let wanted := arguments.listSize.getD settings.listSize
  let listSize := if wanted < 0 then Mocks.usualListSize else wanted.toNat
  let value ← Work.check (Mocks.synthesize { model := loaded.model, seed, listSize } id)
  return .mock id seed (valueOf now value)

def check (settings : Settings) (now : Moment) (arguments : CheckArguments) : Work Answer := do
  let id ← Work.identifier arguments.shape
  let loaded ← Work.load settings now arguments.model
  let _ ← Work.check ((loaded.model.resolveStructure id).mapError
    (.context "check requires a structure"))
  match Validation.checkInstance loaded.model id arguments.value with
  | .ok _ => return .check id none
  | .error fault => return .check id (some (hidePaths fault.message))

def Call.work (settings : Settings) (now : Moment) : Call → Work Answer
  | .inspect arguments => Tools.inspect settings now arguments
  | .generate arguments => Tools.generate settings now arguments
  | .mock arguments => Tools.mock settings now arguments
  | .check arguments => Tools.check settings now arguments

def Call.run (settings : Settings) (now : Moment) (desk : Desk) (call : Call) :
    Except String Answer × Desk :=
  let (result, desk) := (call.work settings now).run desk
  (result.mapError fun fault => hidePaths fault.message, desk)

end ShapeForge.Tools
