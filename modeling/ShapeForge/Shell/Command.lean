import ShapeForge.Files.Tree
import ShapeForge.Shell.Script

/-!
# Commands

Build commands run on the file tree.  A command is one of a few utilities, or a script of them.
-/

namespace ShapeForge.Shell

structure Outcome where
  tree : FileTree
  output : String := ""
  errors : String := ""
  status : Nat := 0

structure Setting where
  dir : String
  input : String := ""

namespace Setting

def locate (setting : Setting) (path : String) : String :=
  if Path.isAbsolute path then path else Path.join [setting.dir, path]

end Setting

def concatenate (setting : Setting) (tree : FileTree) : List String → Outcome
  | [] => { tree }
  | path :: rest =>
    let after := concatenate setting tree rest
    if path == "-" then { after with output := setting.input ++ after.output }
    else match tree.status (setting.locate path) with
      | .ok (.file text) => { after with output := text ++ after.output }
      | .ok .directory =>
        { after with errors := "cat: " ++ path ++ ": Is a directory\n" ++ after.errors
                     status := 1 }
      | .error .notDirectory =>
        { after with errors := "cat: " ++ path ++ ": Not a directory\n" ++ after.errors
                     status := 1 }
      | .error _ =>
        { after with
          errors := "cat: " ++ path ++ ": No such file or directory\n" ++ after.errors
          status := 1 }

def copyTarget (tree : FileTree) (source target : String) : String :=
  match tree.status target with
  | .ok .directory => Path.join [target, Path.base source]
  | _ => target

def copy (setting : Setting) (tree : FileTree) (source target : String) : Outcome :=
  match tree.status (setting.locate source) with
  | .ok (.file text) =>
    match tree.writeFile (copyTarget tree source (setting.locate target)) text with
    | .ok tree => { tree }
    | .error _ =>
      { tree
        errors := "cp: cannot create regular file '" ++ target ++
          "': No such file or directory\n"
        status := 1 }
  | .ok .directory =>
    { tree, errors := "cp: -r not specified; omitting directory '" ++ source ++ "'\n"
      status := 1 }
  | .error _ =>
    { tree, errors := "cp: cannot stat '" ++ source ++ "': No such file or directory\n"
      status := 1 }

def move (setting : Setting) (tree : FileTree) (source target : String) : Outcome :=
  if tree.exists? (setting.locate source) then
    { tree := tree.move (setting.locate source)
        (copyTarget tree source (setting.locate target)) }
  else
    { tree, errors := "mv: cannot stat '" ++ source ++ "': No such file or directory\n"
      status := 1 }

def format : List Char → List String → String
  | '\\' :: 'n' :: rest, values => "\n" ++ format rest values
  | '\\' :: 't' :: rest, values => "\t" ++ format rest values
  | '\\' :: '\\' :: rest, values => "\\" ++ format rest values
  | '%' :: '%' :: rest, values => "%" ++ format rest values
  | '%' :: 's' :: rest, values => values.headD "" ++ format rest values.tail
  | c :: rest, values => String.singleton c ++ format rest values
  | [], _ => ""

def utility? (setting : Setting) (tree : FileTree) : List String → Option Outcome
  | ["cat"] => some { tree, output := setting.input }
  | "cat" :: paths => some (concatenate setting tree paths)
  | ["cp", source, target] => some (copy setting tree source target)
  | ["mv", source, target] => some (move setting tree source target)
  | "echo" :: "-n" :: words => some { tree, output := " ".intercalate words }
  | "echo" :: words => some { tree, output := " ".intercalate words ++ "\n" }
  | "printf" :: text :: values => some { tree, output := format text.toList values }
  | "true" :: _ => some { tree }
  | "false" :: _ => some { tree, status := 1 }
  | _ => none

inductive StartProblem where
  | notFound (name : String)
  | file (operation path : String) (problem : String)

namespace StartProblem

def message : StartProblem → String
  | .notFound name => "exec: " ++ Text.quote name ++ ": executable file not found in $PATH"
  | .file operation path problem => operation ++ " " ++ path ++ ": " ++ problem

end StartProblem

def redirect (setting : Setting) : List Redirection → Outcome → Outcome
  | [], outcome => outcome
  | redirection :: rest, outcome =>
    redirect setting rest (match redirection with
      | .input _ => outcome
      | .toErrors => { outcome with output := "", errors := outcome.errors ++ outcome.output }
      | .toOutput => { outcome with errors := "", output := outcome.output ++ outcome.errors }
      | .file errors append path =>
        let text := if errors then outcome.errors else outcome.output
        let before := if append then (outcome.tree.readFile (setting.locate path)).toOption.getD ""
          else ""
        match outcome.tree.writeFile (setting.locate path) (before ++ text) with
        | .ok tree =>
          if errors then { outcome with tree, errors := "" }
          else { outcome with tree, output := "" }
        | .error _ =>
          { outcome with
            output := ""
            errors := "sh: 1: cannot create " ++ path ++ ": Directory nonexistent\n"
            status := 2 })

def inputOf (setting : Setting) (tree : FileTree) (command : Simple) : String :=
  command.redirections.foldl (fun input redirection =>
    match redirection with
    | .input path => (tree.readFile (setting.locate path)).toOption.getD ""
    | _ => input) setting.input

def statusOf (words : List String) (default : Nat) : Nat :=
  match words with
  | word :: _ => (word.toNat?.getD 2) % 256
  | [] => default

def runPipeline (run : Setting → FileTree → List String → Outcome) (setting : Setting)
    (tree : FileTree) : List Simple → Outcome
  | [] => { tree, output := setting.input }
  | command :: rest =>
    let here := { setting with input := inputOf setting tree command }
    let outcome := redirect setting command.redirections (run here tree command.words)
    if rest.isEmpty then outcome
    else
      let after := runPipeline run { setting with input := outcome.output } outcome.tree rest
      { after with errors := outcome.errors ++ after.errors }

def Condition.holds (condition : Condition) (status : Nat) : Bool :=
  match condition with
  | .always => true
  | .success => status == 0
  | .failure => status != 0

/-- Run the stages of a script with a way to run single commands.  An exit ends it. -/
def runStages (run : Setting → FileTree → List String → Outcome) (setting : Setting)
    (outcome : Outcome) : List Stage → Outcome
  | [] => outcome
  | stage :: rest =>
    if !stage.condition.holds outcome.status then runStages run setting outcome rest
    else
      match stage.commands with
      | [{ words := "exit" :: words, .. }] =>
        { outcome with status := statusOf words outcome.status }
      | commands =>
        let step := runPipeline run setting outcome.tree commands
        runStages run setting
          { step with
            output := outcome.output ++ step.output
            errors := outcome.errors ++ step.errors } rest

/-- Run the words of a command inside a script; scripts may nest so deep. -/
def runWords : Nat → Setting → FileTree → List String → Outcome
  | 0, _, tree, _ => { tree, status := 127 }
  | fuel + 1, setting, tree, words =>
    match words with
    | [] => { tree }
    | "sh" :: "-c" :: script :: _ =>
      runStages (runWords fuel) setting { tree } (readScript script)
    | name :: _ =>
      (utility? setting tree words).getD
        { tree, errors := "sh: 1: " ++ name ++ ": not found\n", status := 127 }

def maxDepth : Nat := 16

def isKnown (name : String) : Bool :=
  ["cat", "cp", "mv", "echo", "printf", "true", "false", "sh"].contains name

def run (dir : String) (tree : FileTree) : List String → Except StartProblem Outcome
  | [] => .ok { tree }
  | name :: rest =>
    if name.toList.contains '/' then
      match tree.status dir, tree.status (Setting.locate { dir } name) with
      | .error problem, _ => .error (.file "chdir" dir problem.message)
      | _, .ok _ => .error (.file "fork/exec" name "permission denied")
      | _, .error problem => .error (.file "fork/exec" name problem.message)
    else if !isKnown name then .error (.notFound name)
    else match tree.status dir with
      | .error problem => .error (.file "chdir" dir problem.message)
      | .ok _ => .ok (runWords maxDepth { dir } tree (name :: rest))

end ShapeForge.Shell
