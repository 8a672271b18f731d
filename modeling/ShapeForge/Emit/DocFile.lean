import ShapeForge.Emit.ServiceFile

/-!
# The package comment

The package comment names the namespace, its services with their documentation and version, and
the namespaces that it depends on.
-/

namespace ShapeForge.Emit

open ShapeForge.Code (Item)

def programVersion : String := "dev"

def fileHeader : List String :=
  [" Code generated by smithygen " ++ programVersion ++ ". DO NOT EDIT."]

def commentLines (text : String) : List String :=
  match Naming.docLines text with
  | [] => []
  | lines => "" :: lines.map Naming.spaced

def serviceLines (info : ServiceInfo) : List String :=
  ["", " # " ++ info.name] ++ commentLines info.shape.traits.documentation ++
    ["", " Version: " ++ info.service.version]

def dependencyLines (space : String) (table : Dependencies) : List String :=
  match table.entries.filter (·.1 != space) with
  | [] => []
  | entries =>
    ["", " # Dependencies", ""] ++ entries.map fun (other, version) =>
      "   - " ++ other ++ " " ++ (version.map (·.text)).getD "(unresolved)"

def docItems (emitter : Emitter) (services : List ServiceInfo) : List Item :=
  let space := emitter.plan.space
  let lines := [" Package " ++ emitter.plan.name ++ " contains the declarations generated from the",
      " " ++ space ++ " namespace."] ++
    services.flatMap serviceLines ++ dependencyLines space emitter.dependencies
  [.comment fileHeader, .blank, .comment lines, .package emitter.plan.name]

end ShapeForge.Emit
