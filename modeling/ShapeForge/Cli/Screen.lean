import ShapeForge.Config.Basic
import ShapeForge.Duration
import ShapeForge.Log.Text

/-!
# What a command sees and shows

A command works on files, and writes to the output and to the errors.  Log lines go to the errors.
-/

namespace ShapeForge.Cli

structure Surroundings where
  environment : List (String × String) := []
  directory : String := "/"
  seconds : String := "0"
  now : String := ""
  elapsed : Duration := ⟨0⟩

structure Screen where
  tree : FileTree := {}
  output : String := ""
  errors : String := ""

abbrev Job (α : Type) := ExceptT Fault (StateM Screen) α

namespace Screen

def show_ (screen : Screen) (text : String) : Screen :=
  { screen with output := screen.output ++ text }

def complain (screen : Screen) (text : String) : Screen :=
  { screen with errors := screen.errors ++ text }

def report (screen : Screen) (fault : Fault) : Screen :=
  screen.complain ("Error: " ++ fault.message ++ "\n" ++
    String.join (fault.hints.map fun hint => "Hint: " ++ hint ++ "\n"))

end Screen

structure Desk where
  surroundings : Surroundings
  config : Config
  logger : Log.Logger

namespace Job

def check {α : Type} (result : Except Fault α) : Job α :=
  match result with
  | .ok value => pure value
  | .error fault => throw fault

def print (text : String) : Job Unit :=
  modify fun screen => screen.show_ text

def complain (text : String) : Job Unit :=
  modify fun screen => screen.complain text

def log (desk : Desk) (entries : List Log.Entry) : Job Unit :=
  complain (desk.logger.text desk.surroundings.seconds entries)

def note (desk : Desk) (level : Log.Level) (message : String)
    (fields : List (String × Log.Value) := []) : Job Unit :=
  log desk [{ level, message, fields }]

end Job

end ShapeForge.Cli
