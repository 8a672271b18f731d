import ShapeForge.Files.Change

/-!
# Watching files

A watcher calls back when watched files change.  Files are watched through their directories, so
a file that is replaced is still seen.  A change arms a timer, and every further change arms it
anew; when it runs out, it signals that the callback is due.  The signal may take its time, and a
timer that has run out cannot be stopped any more.  Only one callback can be due at a time: one
that would be a second is covered by the one that is due already.
-/

namespace ShapeForge

def Path.absolute (directory path : String) : String :=
  if Path.isAbsolute path then Path.clean path else Path.join [directory, path]

structure Watcher where
  files : List String
  directories : List String
  queue : List FileEvent := []
  timer : Option String := none
  /-- The files of timers that have run out and whose signals are still under way. -/
  late : List String := []
  /-- The file for which the callback is due. -/
  due : Option String := none
  running : Option String := none
  deriving Repr, DecidableEq

inductive WatchStep where
  | arrive (event : FileEvent)
  | look
  | expire
  | lapse
  | signal (index : Nat)
  | start
  /-- The callback returns; a failure is logged, and watching goes on. -/
  | finish (failed : Bool)
  deriving Repr, DecidableEq

namespace Watcher

def isChange : FileEventKind → Bool
  | .create => true
  | .write => true
  | .rename => true
  | .remove => false
  | .attributes => false

def concerns (watcher : Watcher) (event : FileEvent) : Bool :=
  isChange event.kind && watcher.files.contains event.path

/-- A signal arrives: the callback is due, unless it is due already. -/
def receive (watcher : Watcher) (file : String) : Watcher :=
  { watcher with due := some (watcher.due.getD file) }

/-- Take a step; not every step is possible at any time.  While the callback runs, nothing else
is looked at. -/
def step? (watcher : Watcher) : WatchStep → Option Watcher
  | .arrive event => some { watcher with queue := watcher.queue ++ [event] }
  | .look =>
    match watcher.running, watcher.queue with
    | none, event :: rest =>
      if watcher.concerns event then
        some { watcher with queue := rest, timer := some event.path }
      else some { watcher with queue := rest }
    | _, _ => none
  | .expire => watcher.timer.map fun file => { watcher with timer := none }.receive file
  | .lapse =>
    watcher.timer.map fun file => { watcher with timer := none, late := watcher.late ++ [file] }
  | .signal index =>
    watcher.late[index]?.map fun file =>
      { watcher with late := watcher.late.eraseIdx index }.receive file
  | .start =>
    match watcher.running, watcher.due with
    | none, some file => some { watcher with due := none, running := some file }
    | _, _ => none
  | .finish _ =>
    watcher.running.map fun _ => { watcher with running := none }

def step (watcher : Watcher) (step : WatchStep) : Watcher :=
  (watcher.step? step).getD watcher

def lookAll (watcher : Watcher) : Watcher :=
  watcher.queue.foldl (fun watcher _ => watcher.step .look) watcher

/-- Look at all events and let the timer run out: the file for which the callback runs then. -/
def settle (watcher : Watcher) : Option String × Watcher :=
  let watcher := (watcher.lookAll.step .expire).step .start
  (watcher.running, watcher.step (.finish false))

def sees (watcher : Watcher) (path : String) : Bool :=
  watcher.directories.contains (Path.dir path) || watcher.directories.contains path

/-- Pass on what happened below the working directory. -/
def notify (watcher : Watcher) (directory : String) (events : List FileEvent) : Watcher :=
  ((events.map fun event => { event with path := Path.absolute directory event.path }).filter
    fun event => watcher.sees event.path).foldl
      (fun watcher event => watcher.step (.arrive event)) watcher

def checkDirectory (tree : FileTree) (directory dir : String) : Except Fault Unit :=
  match tree.status dir with
  | .ok _ => .ok ()
  | .error problem =>
    .error (.plain ("watch: failed to watch " ++ Path.absolute directory dir ++ ": " ++
      problem.message))

def ofFiles (tree : FileTree) (directory : String) (files : List String) :
    Except Fault Watcher := do
  let dirs := files.map fun file => Path.dir (Path.clean file)
  dirs.forM (checkDirectory tree directory)
  return { files := files.map (Path.absolute directory)
           directories := dirs.map (Path.absolute directory) }

end Watcher

end ShapeForge
