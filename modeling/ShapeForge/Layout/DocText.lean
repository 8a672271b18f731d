import ShapeForge.Layout.Token

/-!
# Comments on declarations

The comment of a declaration is a document of paragraphs, headings and lists, separated by blank
lines.  A line that looks like a heading becomes one, quotes written as two characters become
typographic quotes, and the definitions of links move to the end.
-/

namespace ShapeForge.Layout.DocText

inductive Block where
  | heading (text : String)
  | paragraph (lines : List String)
  | indented (lines : List String)
  | links (definitions : List (String × String))
  deriving Repr, Inhabited

def isIndented (line : String) : Bool :=
  match line.toList with
  | ' ' :: _ => true
  | '\t' :: _ => true
  | _ => false

def markedHeading? (line : String) : Option String :=
  match line.toList with
  | '#' :: c :: rest =>
    let text := Text.trim (String.ofList rest)
    if (c == ' ' || c == '\t') && !text.isEmpty then some text else none
  | _ => none

def isUnusual (c : Char) : Bool :=
  ";:!?+*/=[]\x7b\x7d_^°&§~%#@<\">\\".toList.contains c

/-- Whether every apostrophe starts a possessive ending. -/
def possessiveOnly : List Char → Bool
  | [] => true
  | '\'' :: rest =>
    (match rest with
    | ['s'] => true
    | 's' :: ' ' :: _ => true
    | _ => false) && possessiveOnly rest
  | _ :: rest => possessiveOnly rest

/-- Whether no sentence ends: every full stop is followed by something else than a blank. -/
def noSentence : List Char → Bool
  | [] => true
  | '.' :: rest =>
    (match rest with
    | [] => false
    | c :: _ => c != ' ') && noSentence rest
  | _ :: rest => noSentence rest

/-- Whether a line reads like a heading: a capital letter first, a letter or digit last, and no
punctuation that ends a sentence. -/
def readsLikeHeading (line : String) : Bool :=
  let chars := (Text.trim line).toList
  match chars.head?, chars.getLast? with
  | some first, some last =>
    Text.isLetter first && Text.isUpper first && (Text.isLetter last || Text.isDigit last) &&
      !chars.any isUnusual && possessiveOnly chars && noSentence chars
  | _, _ => false

def schemes : List String :=
  ["file", "ftp", "gopher", "http", "https", "mailto", "nntp"]

def link? (line : String) : Option (String × String) :=
  match line.toList with
  | '[' :: rest =>
    match rest.span (· != ']') with
    | (text, ']' :: ':' :: gap :: target) =>
      let target := Text.trim (String.ofList target)
      let scheme := String.ofList (target.toList.takeWhile (· != ':'))
      if (gap == ' ' || gap == '\t') && schemes.contains scheme &&
          target.startsWith (scheme ++ "://") then
        some (String.ofList text, target)
      else none
    | _ => none
  | _ => none

/-- The block of lines without blank line between them.  A single line is a heading if it is
marked, or if it reads like one and stands between other text. -/
def blockOf (isFirst : Bool) (next : Option String) (lines : List String) : Block :=
  match lines.mapM link? with
  | some definitions => .links definitions
  | none =>
    match lines with
    | [line] =>
      if isIndented line then .indented lines
      else match markedHeading? line with
        | some text => .heading text
        | none =>
          let followed := (next.map (!isIndented ·)).getD false
          if !isFirst && followed && readsLikeHeading line then .heading (Text.trim line)
          else .paragraph lines
    | _ => if lines.all isIndented then .indented lines else .paragraph lines

def blocksOf (isFirst : Bool) : List (List String) → List Block
  | [] => []
  | group :: rest => blockOf isFirst (rest.head?.bind (·.head?)) group :: blocksOf false rest

def groups (lines : List String) : List (List String) :=
  (Text.splitWhere (fun line => (Text.trim line).isEmpty) lines).filter (!·.isEmpty)

def backQuotes (chars : List Char) : Nat :=
  (chars.takeWhile (· == backQuote)).length

/-- Quotes of two characters as typographic quotes; three or more back quotes stay. -/
def curlyFrom : Nat → List Char → List Char
  | 0, chars => chars
  | _ + 1, [] => []
  | fuel + 1, c :: rest =>
    if c == backQuote then
      let count := backQuotes (c :: rest)
      if count == 2 then '“' :: curlyFrom fuel (rest.drop 1)
      else List.replicate count backQuote ++ curlyFrom fuel (rest.drop (count - 1))
    else match c, rest with
      | '\'', '\'' :: after => '”' :: curlyFrom fuel after
      | _, _ => c :: curlyFrom fuel rest

def curly (line : String) : String :=
  let chars := line.toList
  String.ofList (curlyFrom (chars.length + 1) chars)

def Block.lines : Block → List String
  | .heading text => ["# " ++ curly text]
  | .paragraph lines => lines.map curly
  | .indented lines => lines.map curly
  | .links _ => []

def Block.definitions : Block → List (String × String)
  | .links definitions => definitions
  | _ => []

def refersTo (lines : List String) (name : String) : Bool :=
  Text.containsWord ("[" ++ name ++ "]").toList ("\n".intercalate lines).toList

def linkLines : List (String × String) → List String
  | [] => []
  | definitions => "" :: definitions.map fun (text, target) => "[" ++ text ++ "]: " ++ target

def normal (lines : List String) : List String :=
  let blocks := blocksOf true (groups lines)
  let bodies := (blocks.map Block.lines).filter (!·.isEmpty)
  let body := [""].intercalate bodies
  let definitions := blocks.flatMap Block.definitions
  body ++ linkLines (definitions.filter (refersTo body ·.1)) ++
    linkLines (definitions.filter (!refersTo body ·.1))

def content (comment : String) : String :=
  let text := comment.drop 2
  if text.startsWith " " then (text.drop 1).toString else text.toString

def comment (line : String) : String :=
  if line.isEmpty then "//" else if line.startsWith "\t" then "//" ++ line else "// " ++ line

def format (comments : List String) : List String :=
  (normal (comments.map content)).map comment

end ShapeForge.Layout.DocText
