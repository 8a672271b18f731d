import ShapeForge.Files.Path
import ShapeForge.Naming.Identifier

/-!
# Packages of namespaces

Every namespace of a model becomes a package.  A plan says how the package is named, where it is
imported from, where its files go, and by which alias other packages refer to it.
-/

namespace ShapeForge.Emit

inductive ServicePolicy where
  | multiple
  | single
  deriving DecidableEq, Repr, Inhabited

namespace ServicePolicy

def name : ServicePolicy → String
  | .multiple => "multiple"
  | .single => "single"

/-- Read a policy in any case; nothing means the default. -/
def parse (text : String) : Except Fault ServicePolicy :=
  match Text.lower text with
  | "" => .ok .multiple
  | "multiple" => .ok .multiple
  | "single" => .ok .single
  | _ => .error (.config "policy" (some text) "must be multiple or single" none)

end ServicePolicy

def defaultModulePath : String := "generated"

structure PackagePlan where
  space : String := ""
  name : String := ""
  shortName : String := ""
  importPath : String := ""
  dir : String := ""
  deriving Repr, Inhabited, DecidableEq

/-- A trailing element that only states a major version. -/
def isVersionElement (element : String) : Bool :=
  match element.toList with
  | 'v' :: digits => !digits.isEmpty && digits.all Char.isDigit
  | _ => false

def suggestedName (importPath : String) : String :=
  match Text.cutLast '/' importPath with
  | none => importPath
  | some (dir, last) => if isVersionElement last then Path.base dir else last

/-- The value that a table holds for a key; later entries count. -/
def override? (overrides : List (String × String)) (space : String) : Option String :=
  (overrides.reverse.find? (·.1 == space)).map (·.2)

def slashed (space : String) : String :=
  Text.replaceAll space "." "/"

def planOne (modulePath : String) (overrides : List (String × String)) (taken : List String)
    (space : String) : PackagePlan :=
  let dir := Text.lower (slashed space)
  let (name, importPath) := match override? overrides space with
    | some path => (Naming.packageName (suggestedName path), path)
    | none => (Naming.packageName space, Path.join [modulePath, dir])
  let shortName :=
    if taken.contains name then Naming.packageName (Text.replaceAll space "." "") else name
  { space, name, shortName, importPath, dir }

def planFrom (modulePath : String) (overrides : List (String × String)) (taken : List String) :
    List String → List PackagePlan
  | [] => []
  | space :: rest =>
    let plan := planOne modulePath overrides taken space
    plan :: planFrom modulePath overrides (plan.shortName :: taken) rest

def planPackages (modulePath : String) (overrides : List (String × String))
    (spaces : List String) : List PackagePlan :=
  planFrom modulePath overrides [] spaces

def planOf? (plans : List PackagePlan) (space : String) : Option PackagePlan :=
  plans.reverse.find? (·.space == space)

def packageOf (modulePath : String) (plans : List PackagePlan) (space : String) :
    String × String :=
  match planOf? plans space with
  | some plan => (plan.shortName, plan.importPath)
  | none => (Naming.packageName space, Path.join [modulePath, slashed space])

end ShapeForge.Emit
