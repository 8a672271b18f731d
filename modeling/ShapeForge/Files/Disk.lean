import ShapeForge.Files.Tree

/-!
# Work on files

Steps that read and change a file tree.  A step that fails leaves behind what the steps before it
have changed.
-/

namespace ShapeForge

abbrev Disk (α : Type) := ExceptT Fault (StateM FileTree) α

namespace Disk

def ask {α : Type} (question : FileTree → Except Fault α) : Disk α := do
  match question (← get) with
  | .ok answer => return answer
  | .error fault => throw fault

def change (step : FileTree → Except Fault FileTree) : Disk Unit := do
  match step (← get) with
  | .ok tree => set tree
  | .error fault => throw fault

def within {α : Type} (wider : Fault → Fault) (work : Disk α) : Disk α :=
  ExceptT.mk do
    match ← work.run with
    | .ok result => return .ok result
    | .error fault => return .error (wider fault)

def each {α : Type} (step : α → Disk Unit) : List α → Disk Unit
  | [] => return
  | item :: rest => do
    step item
    each step rest

def on {α : Type} (tree : FileTree) (work : Disk α) : Except Fault α × FileTree :=
  work.run.run tree

end Disk

end ShapeForge
