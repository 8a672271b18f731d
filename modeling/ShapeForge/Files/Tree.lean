import ShapeForge.Fault
import ShapeForge.Files.Path

/-!
# File trees

The files and directories below a working directory as a value.  Reading and writing fail the
way an operating system reports it, with the operation and the path in front.
-/

namespace ShapeForge

inductive FileEntry where
  | file (text : String)
  | directory
  deriving Repr, Inhabited, DecidableEq

/-- Files and directories by the place of their path.  Neither the working directory nor the root
is listed. -/
structure FileTree where
  entries : List (List String × FileEntry) := []
  /-- When an entry was put in its place, counted in changes of the tree. -/
  stamps : List (List String × Nat) := []
  changes : Nat := 0
  deriving Repr, Inhabited, DecidableEq

inductive FileProblem where
  | missing
  | notDirectory
  | isDirectory
  | alreadyExists
  deriving Repr, DecidableEq

namespace FileProblem

def message : FileProblem → String
  | .missing => "no such file or directory"
  | .notDirectory => "not a directory"
  | .isDirectory => "is a directory"
  | .alreadyExists => "file exists"

def fault (problem : FileProblem) (operation path : String) : Fault :=
  .plain (operation ++ " " ++ path ++ ": " ++ problem.message)

end FileProblem

namespace FileTree

/-- The directories that are always there: the working directory, those above it, and the root. -/
def isGiven (place : List String) : Bool :=
  place == ["/"] || place.all (· == "..")

def entry? (tree : FileTree) (place : List String) : Option FileEntry :=
  if isGiven place then some .directory
  else (tree.entries.find? (·.1 == place)).map (·.2)

/-- The entry that is reached element by element, where everything before the last is a
directory. -/
def walk (tree : FileTree) (reached : List String) :
    List String → Except FileProblem FileEntry
  | [] =>
    match tree.entry? reached with
    | some entry => .ok entry
    | none => .error .missing
  | element :: rest =>
    match tree.entry? reached with
    | some .directory => walk tree (reached ++ [element]) rest
    | some (.file _) => .error .notDirectory
    | none => .error .missing

/-- The entry at a path; a path that ends in a slash is one of a directory. -/
def status (tree : FileTree) (path : String) : Except FileProblem FileEntry :=
  if path.isEmpty then .error .missing
  else match tree.walk [] (Path.place path) with
    | .ok (.file text) =>
      if path.toList.getLast? == some '/' then .error .notDirectory else .ok (.file text)
    | found => found

def exists? (tree : FileTree) (path : String) : Bool :=
  (tree.status path).toOption.isSome

def put (tree : FileTree) (place : List String) (entry : FileEntry) : FileTree :=
  { entries :=
      if tree.entries.any (·.1 == place) then
        tree.entries.map fun (other, old) => (other, if other == place then entry else old)
      else tree.entries ++ [(place, entry)]
    stamps := (place, tree.changes + 1) :: tree.stamps.filter (·.1 != place)
    changes := tree.changes + 1 }

def stamp? (tree : FileTree) (path : String) : Option Nat :=
  if tree.exists? path then
    some (((tree.stamps.find? (·.1 == Path.place path)).map (·.2)).getD 0)
  else none

/-- Follow the elements of a path as they are written, behind elements that stand in reverse.
Whatever an element is looked up in has to be a directory, also where the next one leaves it. -/
def follow (tree : FileTree) (rooted : Bool) (before : List String) :
    List String → Except FileProblem Unit
  | [] => .ok ()
  | element :: rest =>
    match tree.entry? (Path.placeOf rooted before.reverse) with
    | some .directory => follow tree rooted (Path.push rooted before element) rest
    | some (.file _) => .error .notDirectory
    | none => .error .missing

def readFile (tree : FileTree) (path : String) : Except Fault String :=
  match tree.follow (Path.isAbsolute path) [] (Text.split '/' path) with
  | .error problem => .error (problem.fault "open" path)
  | .ok _ =>
    match tree.status path with
    | .ok (.file text) => .ok text
    | .ok .directory => .error (FileProblem.isDirectory.fault "read" path)
    | .error problem => .error (problem.fault "open" path)

def writeFile (tree : FileTree) (path text : String) : Except Fault FileTree :=
  match tree.status path with
  | .ok (.file _) => .ok (tree.put (Path.place path) (.file text))
  | .ok .directory => .error (FileProblem.isDirectory.fault "open" path)
  | .error problem =>
    if path.isEmpty || path.toList.getLast? == some '/' then
      .error (problem.fault "open" path)
    else
      let place := Path.place path
      match tree.walk [] place.dropLast with
      | .ok .directory => .ok (tree.put place (.file text))
      | .ok (.file _) => .error (FileProblem.notDirectory.fault "open" path)
      | .error problem => .error (problem.fault "open" path)

def makeDir (tree : FileTree) (path : String) : Except Fault FileTree :=
  match tree.status path with
  | .ok .directory => .ok tree
  | .ok (.file _) => .error (FileProblem.notDirectory.fault "mkdir" path)
  | .error _ =>
    if path.isEmpty then .error (FileProblem.missing.fault "mkdir" path)
    else match tree.entry? (Path.place path) with
      | some .directory => .ok tree
      | some (.file _) => .error (FileProblem.alreadyExists.fault "mkdir" path)
      | none => .ok (tree.put (Path.place path) .directory)

def makeDirs (tree : FileTree) (path : String) : Except Fault FileTree :=
  match tree.status path with
  | .ok .directory => .ok tree
  | _ => (Path.ancestors [] path.toList).foldlM makeDir tree

def readDir (tree : FileTree) (path : String) :
    Except FileProblem (List (String × FileEntry)) :=
  match tree.status path with
  | .ok .directory =>
    let place := Path.place path
    let inside := tree.entries.filterMap fun (other, entry) =>
      if other.dropLast == place then other.getLast?.map (·, entry) else none
    .ok (inside.mergeSort fun left right => left.1 ≤ right.1)
  | .ok (.file _) => .error .notDirectory
  | .error problem => .error problem

def remove (tree : FileTree) (path : String) : FileTree :=
  { tree with
    entries := tree.entries.filter fun (place, _) => !(Path.place path).isPrefixOf place }

def move (tree : FileTree) (path target : String) : FileTree :=
  let source := Path.place path
  let moved := tree.entries.filter fun (place, _) => source.isPrefixOf place
  moved.foldl
    (fun tree (place, entry) => tree.put (Path.place target ++ place.drop source.length) entry)
    ((tree.remove path).remove target)

def isInside (place : List String) : Bool :=
  !(place.head? == some "/" || place.head? == some "..")

/-- All files below the working directory with their texts, in ascending order of their paths. -/
def files (tree : FileTree) : List (String × String) :=
  (tree.entries.filterMap fun (place, entry) =>
    match entry with
    | .file text => if isInside place then some (Path.ofElements false place, text) else none
    | .directory => none).mergeSort fun left right => left.1 ≤ right.1

/-- A file with the directories above it, whatever was there. -/
def plant (tree : FileTree) (path text : String) : FileTree :=
  match tree.makeDirs (Path.dir path) with
  | .ok tree => tree.put (Path.place path) (.file text)
  | .error _ => tree

def ofFiles (files : List (String × String)) : FileTree :=
  files.foldl (fun tree (path, text) => tree.plant path text) {}

end FileTree

end ShapeForge
