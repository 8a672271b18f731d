import ShapeForge.Text.Blank

/-!
# Paths

Slash-separated paths: their shortest equivalent, joining, and their parts.
-/

namespace ShapeForge.Path

def isAbsolute (path : String) : Bool :=
  path.toList.head? == some '/'

/-- Apply one element to the elements before it, which stand in reverse. -/
def push (rooted : Bool) (before : List String) (element : String) : List String :=
  if element.isEmpty || element == "." then before
  else if element == ".." then
    match before with
    | [] => if rooted then [] else [".."]
    | last :: rest => if last == ".." then ".." :: before else rest
  else element :: before

/-- The elements of a path without `.`, and with `..` only in front. -/
def elements (path : String) : List String :=
  ((Text.split '/' path).foldl (push (isAbsolute path)) []).reverse

/-- The place that elements lead to from the root or from the working directory; the root is an
element of its own. -/
def placeOf (rooted : Bool) (parts : List String) : List String :=
  if rooted then "/" :: parts else parts

def place (path : String) : List String :=
  placeOf (isAbsolute path) (elements path)

/-- The paths of the directories above a path, outermost first, and the path itself; the
characters before the path stand in reverse. -/
def ancestors (before : List Char) : List Char → List String
  | [] => [String.ofList before.reverse]
  | c :: rest =>
    if c == '/' && rest.head?.any (· != '/') && !before.isEmpty then
      String.ofList before.reverse :: ancestors (c :: before) rest
    else ancestors (c :: before) rest

def ofElements (rooted : Bool) (parts : List String) : String :=
  let joined := "/".intercalate parts
  if rooted then "/" ++ joined else if joined.isEmpty then "." else joined

def clean (path : String) : String :=
  ofElements (isAbsolute path) (elements path)

/-- Paths one below the other; empty ones are left out. -/
def join (paths : List String) : String :=
  let given := paths.filter (!·.isEmpty)
  if given.isEmpty then "" else clean ("/".intercalate given)

def base (path : String) : String :=
  if path.isEmpty then "."
  else
    let stripped := path.toList.reverse.dropWhile (· == '/')
    if stripped.isEmpty then "/"
    else String.ofList (stripped.takeWhile (· != '/')).reverse

def dir (path : String) : String :=
  clean (String.ofList (path.toList.reverse.dropWhile (· != '/')).reverse)

def ext (path : String) : String :=
  let last := path.toList.reverse.takeWhile (· != '/')
  match last.span (· != '.') with
  | (after, dot :: _) => String.ofList (dot :: after.reverse)
  | (_, []) => ""

/-- Whether a path relative to a directory stays inside it. -/
def isLocal (path : String) : Bool :=
  !path.isEmpty && !isAbsolute path && (elements path).head? != some ".."

def dropShared : List String → List String → List String × List String
  | left :: lefts, right :: rights =>
    if left == right then dropShared lefts rights else (left :: lefts, right :: rights)
  | lefts, rights => (lefts, rights)

/-- The path from one directory to a place; unknown where it would have to leave a `..`. -/
def rel? (source target : String) : Option String :=
  if isAbsolute source != isAbsolute target then none
  else
    let (up, down) := dropShared (elements source) (elements target)
    if up.head? == some ".." then none
    else some (ofElements false (up.map (fun _ => "..") ++ down))

end ShapeForge.Path
