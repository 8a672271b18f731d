import ShapeForge.Files.Tree

/-!
# Changes of files

A change of a file tree, and the events by which others learn of it.
-/

namespace ShapeForge

inductive FileEventKind where
  | create
  | write
  | rename
  | remove
  /-- Only what is known about the file changed, such as who may read it. -/
  | attributes
  deriving Repr, DecidableEq

structure FileEvent where
  path : String
  kind : FileEventKind
  deriving Repr, DecidableEq

inductive FileChange where
  | write (path text : String)
  | remove (path : String)
  | rename (path target : String)
  | makeDir (path : String)
  deriving Repr, DecidableEq

namespace FileTree

def isEmptyDir (tree : FileTree) (path : String) : Bool :=
  match tree.readDir path with
  | .ok entries => entries.isEmpty
  | .error _ => false

def isRemovable (tree : FileTree) (path : String) : Bool :=
  match tree.status path with
  | .ok (.file _) => true
  | .ok .directory => tree.isEmptyDir path
  | .error _ => false

end FileTree

namespace FileChange

/-- The tree after a change, and what happened; a change that is not possible does nothing. -/
def apply (tree : FileTree) : FileChange → FileTree × List FileEvent
  | .write path text =>
    match tree.writeFile path text with
    | .error _ => (tree, [])
    | .ok changed =>
      let created := if tree.exists? path then [] else [⟨path, .create⟩]
      (changed, created ++ [⟨path, .write⟩])
  | .remove path =>
    if tree.isRemovable path then (tree.remove path, [⟨path, .remove⟩]) else (tree, [])
  | .rename path target =>
    if tree.exists? path && tree.exists? (Path.dir target) then
      (tree.move path target, [⟨path, .rename⟩, ⟨target, .create⟩])
    else (tree, [])
  | .makeDir path =>
    if tree.exists? path then (tree, [])
    else match tree.makeDir path with
      | .ok changed => (changed, [⟨path, .create⟩])
      | .error _ => (tree, [])

def applyAll (tree : FileTree) (changes : List FileChange) : FileTree × List FileEvent :=
  changes.foldl (fun (tree, events) change =>
    let (tree, more) := change.apply tree
    (tree, events ++ more)) (tree, [])

end FileChange

end ShapeForge
