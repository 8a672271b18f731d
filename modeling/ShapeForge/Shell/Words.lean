/-!
# Words of a command

A command line is split into words the way a shell does it: blanks separate words, single quotes
keep everything, double quotes keep everything but a few escapes, and a backslash keeps the next
character.  Nothing is expanded.
-/

namespace ShapeForge.Shell

inductive WordProblem where
  | singleQuote
  | doubleQuote
  | escape
  deriving DecidableEq, Repr

namespace WordProblem

def message : WordProblem → String
  | .singleQuote => "Unterminated single-quoted string"
  | .doubleQuote => "Unterminated double-quoted string"
  | .escape => "Unterminated backslash-escape"

end WordProblem

inductive Quoting where
  | none
  | single
  | double
  deriving DecidableEq, Repr

def isGap (c : Char) : Bool :=
  c == ' ' || c == '\n' || c == '\t'

def isEscapable (c : Char) : Bool :=
  c == '$' || c == '\x60' || c == '"' || c == '\\'

/-- Split characters into words; the word that is being read, if one has started, stands in
reverse. -/
def wordsFrom (quoting : Quoting) (word : Option (List Char)) :
    List Char → Except WordProblem (List String)
  | [] =>
    match quoting with
    | .single => .error .singleQuote
    | .double => .error .doubleQuote
    | .none => .ok (finished word)
  | c :: rest =>
    let started := word.getD []
    match quoting with
    | .single =>
      if c == '\'' then wordsFrom .none (some started) rest
      else wordsFrom .single (some (c :: started)) rest
    | .double =>
      if c == '"' then wordsFrom .none (some started) rest
      else if c == '\\' then
        match rest with
        | [] => .error .doubleQuote
        | next :: after =>
          if next == '\n' then wordsFrom .double (some started) after
          else if isEscapable next then wordsFrom .double (some (next :: started)) after
          else wordsFrom .double (some (next :: c :: started)) after
      else wordsFrom .double (some (c :: started)) rest
    | .none =>
      if c == '\'' then wordsFrom .single (some started) rest
      else if c == '"' then wordsFrom .double (some started) rest
      else if c == '\\' then
        match rest with
        | [] => .error .escape
        | next :: after =>
          if next == '\n' then wordsFrom .none word after
          else wordsFrom .none (some (next :: started)) after
      else if isGap c then (wordsFrom .none none rest).map (finished word ++ ·)
      else wordsFrom .none (some (c :: started)) rest
where
  finished (word : Option (List Char)) : List String :=
    match word with
    | some chars => [String.ofList chars.reverse]
    | none => []

def words (text : String) : Except WordProblem (List String) :=
  wordsFrom .none none text.toList

end ShapeForge.Shell
