import ShapeForge.Files.Tree
import ShapeForge.Json.Basic

/-!
# Descriptions of files

The files of a tree described as JSON.
-/

namespace ShapeForge.Report

def paths (tree : FileTree) : Json :=
  .strings (tree.files.map (·.1))

def files (tree : FileTree) : Json :=
  .array (tree.files.map fun (path, text) => .strings [path, text])

def contents (tree : FileTree) (paths : List String) : Json :=
  .object (paths.map fun path => (path, .optString (tree.readFile path).toOption))

end ShapeForge.Report
