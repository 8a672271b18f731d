import ShapeForge.Emit.Write
import ShapeForge.Registry
import ShapeForge.Source

/-!
# Publishing packages

A package is published once for every version, together with the model that it was generated
from, so that other models can import it.
-/

namespace ShapeForge

structure Publisher where
  registry : Registry
  name : String
  deriving Repr, Inhabited, DecidableEq

namespace Publisher

def modelFile : String := "model.json"

def versionDir (publisher : Publisher) (space : String) (version : Version) : String :=
  Path.join [publisher.registry.packageDir space publisher.name, version.text]

def publish (publisher : Publisher) (space : String) (files : List Emit.PackageFile)
    (version : Version) : Disk Unit := do
  let dir := publisher.versionDir space version
  if (← get).exists? dir then
    throw (.hinted ("remove " ++ dir ++ " or publish a new version")
      (.plain ("pipeline: " ++ space ++ " " ++ version.text ++ " is already published")))
  Disk.within (.context ("pipeline: publishing " ++ space ++ " " ++ version.text))
    (Emit.writeDir dir files)

def load (publisher : Publisher) (tree : FileTree) (space : String) (version : Version) :
    Except Fault Model := do
  let path := Path.join [publisher.versionDir space version, modelFile]
  let loaded ← (LoadedModel.ofFile tree path).mapError
    (.context ("pipeline: loading dependency " ++ space ++ " " ++ version.text))
  return loaded.model.only [space]

end Publisher

end ShapeForge
