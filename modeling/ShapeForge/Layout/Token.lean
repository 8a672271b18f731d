import ShapeForge.Code.Declaration
import ShapeForge.Text.Blank
import ShapeForge.Text.Letter

/-!
# Tokens of generated code

Code is read as lines of tokens.  A raw string may run over several lines of the text and is still
one token of the line that it starts on.
-/

namespace ShapeForge.Layout

inductive TokenKind where
  | word
  | number
  | string
  | raw
  | comment
  | mark
  deriving DecidableEq, Repr, Inhabited

structure Token where
  kind : TokenKind
  text : String
  spaced : Bool
  deriving DecidableEq, Repr, Inhabited

abbrev Line := List Token

inductive SyntaxProblem where
  | illegalCharacter (c : Char)
  | unterminatedString
  | badPackageClause
  | badImport
  | badDeclaration
  | badField
  | unbalanced
  deriving Repr, Inhabited

namespace SyntaxProblem

def message : SyntaxProblem → String
  | .illegalCharacter c => "illegal character " ++ String.singleton c
  | .unterminatedString => "string literal not terminated"
  | .badPackageClause => "expected 'package'"
  | .badImport => "invalid import"
  | .badDeclaration => "expected declaration"
  | .badField => "expected field"
  | .unbalanced => "unbalanced brackets"

end SyntaxProblem

def isPair (first second : Char) : Bool :=
  match first, second with
  | ':', '=' => true
  | '=', '=' => true
  | '!', '=' => true
  | '&', '&' => true
  | '|', '|' => true
  | '<', '=' => true
  | '>', '=' => true
  | _, _ => false

def isMark (c : Char) : Bool :=
  "!%&()*+,-./:;<=>[]^|~\x7b\x7d".toList.contains c

def backQuote : Char := '\x60'

def readString : List Char → Option (List Char × List Char)
  | [] => none
  | '\n' :: _ => none
  | '"' :: rest => some (['"'], rest)
  | '\\' :: c :: rest =>
    if c == '\n' then none
    else (readString rest).map fun (text, after) => ('\\' :: c :: text, after)
  | c :: rest => (readString rest).map fun (text, after) => (c :: text, after)

def continuesWord (c : Char) : Bool :=
  c == '_' || Text.isLetter c || Text.isDigit c

def continuesNumber (c : Char) : Bool :=
  c == '.' || c == '_' || c.isAlphanum

def withoutReturns (chars : List Char) : String :=
  String.ofList (chars.filter (· != '\r'))

def readToken : List Char → Except SyntaxProblem (TokenKind × String × List Char)
  | [] => .error .unbalanced
  | '/' :: '/' :: rest =>
    let (text, after) := rest.span (· != '\n')
    .ok (.comment, "//" ++ withoutReturns text, after)
  | '"' :: rest =>
    match readString rest with
    | some (text, after) => .ok (.string, String.ofList ('"' :: text), after)
    | none => .error .unterminatedString
  | c :: rest =>
    if c == backQuote then
      match rest.span (· != backQuote) with
      | (_, []) => .error .unterminatedString
      | (text, _ :: after) =>
        let quote := String.singleton backQuote
        .ok (.raw, quote ++ withoutReturns text ++ quote, after)
    else if c.isDigit then
      let (text, after) := rest.span continuesNumber
      .ok (.number, String.ofList (c :: text), after)
    else if continuesWord c then
      let (text, after) := rest.span continuesWord
      .ok (.word, String.ofList (c :: text), after)
    else match rest with
      | d :: after =>
        if isPair c d then .ok (.mark, String.ofList [c, d], after)
        else if isMark c then .ok (.mark, String.singleton c, rest)
        else .error (.illegalCharacter c)
      | [] =>
        if isMark c then .ok (.mark, String.singleton c, rest)
        else .error (.illegalCharacter c)

/-- The lines of a text.  The fuel bounds the number of characters that are left; tokens of the
current line are kept in reverse. -/
def readLines (spaced : Bool) (line : Line) :
    Nat → List Char → Except SyntaxProblem (List Line)
  | 0, _ => .ok [line.reverse]
  | _ + 1, [] => .ok [line.reverse]
  | fuel + 1, c :: rest =>
    if c == '\n' then do
      return line.reverse :: (← readLines false [] fuel rest)
    else if c == ' ' || c == '\t' || c == '\r' then readLines true line fuel rest
    else do
      let (kind, text, after) ← readToken (c :: rest)
      readLines false ({ kind, text, spaced } :: line) fuel after

def isForbidden (c : Char) : Bool :=
  c.toNat == 0 || c.toNat == 0xFEFF

def tokenize (text : String) : Except SyntaxProblem (List Line) :=
  let chars := text.toList
  match chars.find? isForbidden with
  | some c => .error (.illegalCharacter c)
  | none => readLines false [] (chars.length + 1) chars

namespace Token

def isMarked (token : Token) (mark : String) : Bool :=
  token.kind == .mark && token.text == mark

def isWord (token : Token) (word : String) : Bool :=
  token.kind == .word && token.text == word

def opens (token : Token) : Bool :=
  token.isMarked "(" || token.isMarked "[" || token.isMarked "\x7b"

def closes (token : Token) : Bool :=
  token.isMarked ")" || token.isMarked "]" || token.isMarked "\x7d"

def isName (token : Token) : Bool :=
  token.kind == .word && !Code.keywords.contains token.text

end Token

namespace Line

def text : Line → String
  | [] => ""
  | first :: rest =>
    first.text ++
      "".intercalate (rest.map fun token => if token.spaced then " " ++ token.text else token.text)

def isComment : Line → Bool
  | [token] => token.kind == .comment
  | _ => false

def depth (line : Line) : Int :=
  (line.countP Token.opens : Int) - (line.countP Token.closes : Int)

end Line

end ShapeForge.Layout
