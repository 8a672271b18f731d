import ShapeForge.Json.Basic
import ShapeForge.Text.Quoted

/-!
# Writing JSON

The compact text of a value, and the indented one.  Strings are written with the escapes that
keep them harmless inside markup: `<`, `>` and `&`, and the two separators that end a line in
scripts, are escaped as well as quotes, backslashes and control characters.  The plain style
leaves the three markup characters as they are.
-/

namespace ShapeForge.Json

inductive Style where
  | markup
  | plain
  deriving BEq, DecidableEq

def codeEscape (c : Char) : List Char :=
  '\\' :: 'u' :: (Text.hex 4 c.toNat).toList

def escapeChar (style : Style) (c : Char) : List Char :=
  if c == '"' then ['\\', '"']
  else if c == '\\' then ['\\', '\\']
  else if c.toNat == 8 then ['\\', 'b']
  else if c.toNat == 12 then ['\\', 'f']
  else if c == '\n' then ['\\', 'n']
  else if c == '\r' then ['\\', 'r']
  else if c == '\t' then ['\\', 't']
  else if c.toNat < 32 then codeEscape c
  else if style == .markup && (c == '<' || c == '>' || c == '&') then codeEscape c
  else if c.toNat == 0x2028 || c.toNat == 0x2029 then codeEscape c
  else [c]

def escapeChars (style : Style) : List Char → List Char
  | [] => []
  | c :: rest => escapeChar style c ++ escapeChars style rest

def quoteChars (style : Style) (text : String) : List Char :=
  '"' :: (escapeChars style text.toList ++ ['"'])

def quote (text : String) (style : Style := .markup) : String :=
  String.ofList (quoteChars style text)

mutual

def writeChars (style : Style) : Json → List Char
  | .null => "null".toList
  | .bool true => "true".toList
  | .bool false => "false".toList
  | .number literal => literal.toList
  | .string text => quoteChars style text
  | .array items => '[' :: writeItems style items
  | .object fields => '\x7b' :: writeFields style fields

def writeItems (style : Style) : List Json → List Char
  | [] => [']']
  | item :: rest => writeChars style item ++ writeMoreItems style rest

def writeMoreItems (style : Style) : List Json → List Char
  | [] => [']']
  | item :: rest => ',' :: (writeChars style item ++ writeMoreItems style rest)

def writeFields (style : Style) : List (String × Json) → List Char
  | [] => ['\x7d']
  | (key, value) :: rest =>
    quoteChars style key ++ ':' :: (writeChars style value ++ writeMoreFields style rest)

def writeMoreFields (style : Style) : List (String × Json) → List Char
  | [] => ['\x7d']
  | (key, value) :: rest =>
    ',' :: (quoteChars style key ++ ':' :: (writeChars style value ++ writeMoreFields style rest))

end

def write (value : Json) (style : Style := .markup) : String :=
  String.ofList (writeChars style value)

def newline (level : Nat) : String :=
  "\n" ++ String.ofList (List.replicate (2 * level) ' ')

mutual

/-- The text of a value with one item or member on a line, two spaces deeper than its
container. -/
def writeIndented (level : Nat) : Json → String
  | .array [] => "[]"
  | .object [] => "\x7b\x7d"
  | .array items =>
    "[" ++ newline (level + 1) ++ ((",").append (newline (level + 1))).intercalate
      (indentedItems (level + 1) items) ++ newline level ++ "]"
  | .object fields =>
    "\x7b" ++ newline (level + 1) ++ ((",").append (newline (level + 1))).intercalate
      (indentedFields (level + 1) fields) ++ newline level ++ "\x7d"
  | value => write value

def indentedItems (level : Nat) : List Json → List String
  | [] => []
  | item :: rest => writeIndented level item :: indentedItems level rest

def indentedFields (level : Nat) : List (String × Json) → List String
  | [] => []
  | (key, value) :: rest =>
    (quote key ++ ": " ++ writeIndented level value) :: indentedFields level rest

end

end ShapeForge.Json
