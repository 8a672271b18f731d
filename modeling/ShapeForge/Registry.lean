import ShapeForge.Files.Tree
import ShapeForge.Use

/-!
# Package registries

A registry keeps the published versions of packages in directories named for the registry, the
package and the version.  Directories with other names are not versions.
-/

namespace ShapeForge

structure Registry where
  root : String
  deriving Repr, Inhabited, DecidableEq

namespace Registry

def packageDir (registry : Registry) (package name : String) : String :=
  Path.join [registry.root, name, package]

def version? : String × FileEntry → Option Version
  | (name, .directory) => Version.parse? name
  | (_, .file _) => none

def versions (registry : Registry) (tree : FileTree) (package name : String) :
    Except Fault (List Version) :=
  let dir := registry.packageDir package name
  match tree.readDir dir with
  | .ok entries => .ok (Version.sort (entries.filterMap version?))
  | .error .missing => .ok []
  | .error problem =>
    .error (.context ("pkgversion: reading " ++ package) (problem.fault "open" dir))

def latest (registry : Registry) (tree : FileTree) (package name : String) :
    Except Fault Version := do
  match (← registry.versions tree package name).getLast? with
  | some version => return version
  | none => throw (.noVersions package name)

def next (registry : Registry) (tree : FileTree) (package name : String) :
    Except Fault Version :=
  match registry.latest tree package name with
  | .ok version => .ok version.nextPatch
  | .error fault => if fault.is .noVersions then .ok Version.initial else .error fault

/-- Resolve namespaces to the latest versions published under their names. -/
def resolveAll (registry : Registry) (tree : FileTree) (name : String) (table : Dependencies) :
    List String → Except Fault Dependencies
  | [] => .ok table
  | space :: rest =>
    match registry.latest tree space name with
    | .ok version => resolveAll registry tree name (table.set space (some version)) rest
    | .error fault =>
      if fault.is .noVersions then resolveAll registry tree name table rest
      else .error fault

/-- Fill the versions that a table lacks.  What was never published stays unresolved. -/
def resolve (registry : Registry) (tree : FileTree) (name : String) (table : Dependencies) :
    Except Fault Dependencies :=
  registry.resolveAll tree name table table.unresolved

end Registry

end ShapeForge
