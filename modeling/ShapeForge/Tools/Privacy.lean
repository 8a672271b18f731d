import ShapeForge.Text.Blank

/-!
# Privacy of messages

Messages of the tools do not reveal where things are on a disk: every path below one of the usual
top directories is replaced by a mark.
-/

namespace ShapeForge.Tools

def topDirectories : List String :=
  ["home", "tmp", "var", "Users", "etc", "opt", "usr", "private", "root", "mnt", "srv", "run",
    "snap", "nix"]

def pathMark : String := "<path>"

def isPathChar (c : Char) : Bool :=
  c.isAlphanum || c == '.' || c == '_' || c == '/' || c == '-'

def startsTop (chars : List Char) : Bool :=
  topDirectories.any fun name => name.toList.isPrefixOf chars

/-- Replace paths by the mark; inside of one, characters are dropped as long as it goes on. -/
def hideChars (inside : Bool) : List Char → List Char
  | [] => []
  | c :: rest =>
    if inside && isPathChar c then hideChars true rest
    else if c == '/' && startsTop rest then pathMark.toList ++ hideChars true rest
    else c :: hideChars false rest

def hidePaths (message : String) : String :=
  String.ofList (hideChars false message.toList)

end ShapeForge.Tools
