import ShapeForge.Decimal.Shortest
import ShapeForge.Json.Basic
import ShapeForge.Yaml.Core
import ShapeForge.Yaml.Cursor
import ShapeForge.Yaml.Timestamp

/-!
# Writing YAML

Data in block style, four spaces a level.  A string stands without quotes only where it reads back
as the same string; a string of several lines is a literal block.
-/

namespace ShapeForge.Yaml

def isOldTruth (text : String) : Bool :=
  ["y", "Y", "yes", "Yes", "YES", "on", "On", "ON", "n", "N", "no", "No", "NO", "off", "Off",
    "OFF"].contains text

/-- A sexagesimal group: at most two digits, and of two the first below six. -/
def isSixtieth (group : List Char) : Bool :=
  match group with
  | [digit] => digit.isDigit
  | [tens, digit] => '0' ≤ tens && tens ≤ '5' && digit.isDigit
  | _ => false

/-- Whether older versions read the text as a sexagesimal number. -/
def isSexagesimal (text : String) : Bool :=
  let chars := match text.toList with
    | '+' :: rest => rest
    | '-' :: rest => rest
    | chars => chars
  let (groups, fraction) := chars.span (· != '.')
  let parts := match groups.head? with
    | some _ => splitGroups groups
    | none => []
  match parts with
  | first :: second :: rest =>
    first.head?.any Char.isDigit && first.all (fun c => c.isDigit || c == '_') &&
      (second :: rest).all isSixtieth && fraction.tail.all (fun c => c.isDigit || c == '_')
  | _ => false
where
  splitGroups : List Char → List (List Char)
    | [] => [[]]
    | c :: rest =>
      if c == ':' then [] :: splitGroups rest
      else match splitGroups rest with
        | [] => [[c]]
        | group :: groups => (c :: group) :: groups

/-- Whether a text without quotes would be read as a string, by old versions as well. -/
def readsAsString (text : String) : Bool :=
  coreTag text == .str && !isTimestamp text && !isSexagesimal text && !isOldTruth text

def isWritable (c : Char) : Bool :=
  let code := c.toNat
  code == 10 || (0x20 ≤ code && code ≤ 0x7E) || (0xA0 ≤ code && code ≤ 0xD7FF) ||
    (0xE000 ≤ code && code ≤ 0xFFFD && code != 0xFEFF)

def isIndicator (c : Char) : Bool :=
  "#,[]\x7b\x7d&*!|>'\"%@\x60".toList.contains c

/-- Whether the characters after the first have a mark that ends a scalar without quotes: a colon
in front of a gap, or a number sign behind one. -/
def hasMark : List Char → Bool
  | a :: b :: rest =>
    (b == ':' && rest.head?.all isBlank) || (b == '#' && (isBlank a || isBreak a)) ||
      hasMark (b :: rest)
  | _ => false

/-- Whether spaces meet line breaks: in front of one, or behind one. -/
def spaceBeforeBreak : List Char → Bool
  | a :: b :: rest => (a == ' ' && isBreak b) || spaceBeforeBreak (b :: rest)
  | _ => false

def spaceAfterBreak : List Char → Bool
  | a :: b :: rest => (isBreak a && b == ' ') || spaceAfterBreak (b :: rest)
  | _ => false

inductive ScalarForm where
  | plain
  | single
  | double
  | literal
  deriving DecidableEq, Repr

structure Analysis where
  /-- Some characters have to be escaped. -/
  special : Bool
  tabs : Bool
  breaks : Bool
  startsWithGap : Bool
  endsWithSpace : Bool
  endsWithBreak : Bool
  indicators : Bool
  spaceBefore : Bool
  spaceAfter : Bool

def analyze (chars : List Char) : Analysis :=
  let first := chars.head?
  let second := (chars.drop 1).head?
  let last := chars.getLast?
  { special := chars.any fun c => c != '\t' && !isWritable c
    tabs := chars.contains '\t'
    breaks := chars.any isBreak
    startsWithGap := first.any fun c => c == ' ' || isBreak c
    endsWithSpace := last == some ' '
    endsWithBreak := last.any isBreak
    indicators := chars.take 3 == ['-', '-', '-'] || chars.take 3 == ['.', '.', '.'] ||
      first.any isIndicator ||
      (first.any (fun c => c == '?' || c == ':' || c == '-') && second.all isBlank) ||
      hasMark chars
    spaceBefore := spaceBeforeBreak chars
    spaceAfter := spaceAfterBreak chars }

namespace Analysis

def allowsPlain (analysis : Analysis) : Bool :=
  !(analysis.startsWithGap || analysis.endsWithSpace || analysis.endsWithBreak ||
    analysis.spaceAfter || analysis.spaceBefore || analysis.tabs || analysis.special ||
    analysis.breaks || analysis.indicators)

def allowsSingle (analysis : Analysis) : Bool :=
  !(analysis.spaceAfter || analysis.spaceBefore || analysis.tabs || analysis.special)

def allowsLiteral (analysis : Analysis) : Bool :=
  !(analysis.endsWithSpace || analysis.spaceBefore || analysis.special)

end Analysis

/-- The form of a string, which may be the key of a mapping. -/
def formOf (isKey : Bool) (text : String) : ScalarForm :=
  let chars := text.toList
  let analysis := analyze chars
  if chars.contains '\n' then
    if isKey || !analysis.allowsLiteral then .double else .literal
  else if !readsAsString text then .double
  else if isKey && analysis.breaks then .double
  else if analysis.allowsPlain then .plain
  else if analysis.allowsSingle then .single
  else .double

def escapeChar (c : Char) : String :=
  let code := c.toNat
  if c == '"' then "\\\""
  else if c == '\\' then "\\\\"
  else if isWritable c && !isBreak c then String.singleton c
  else match shortEscapes.find? (·.1 == code) with
    | some (_, letter) => String.ofList ['\\', letter]
    | none =>
      if code ≤ 0xFF then "\\x" ++ capital (Text.hex 2 code)
      else if code ≤ 0xFFFF then "\\u" ++ capital (Text.hex 4 code)
      else "\\U" ++ capital (Text.hex 8 code)
where
  shortEscapes : List (Nat × Char) :=
    [(0, '0'), (7, 'a'), (8, 'b'), (9, 't'), (10, 'n'), (11, 'v'), (12, 'f'), (13, 'r'),
      (27, 'e'), (0x85, 'N'), (0x2028, 'L'), (0x2029, 'P')]
  capital (digits : String) : String := String.ofList (digits.toList.map Char.toUpper)

def spaces (count : Nat) : String :=
  String.ofList (List.replicate count ' ')

def literalLines (indent : Nat) (chars : List Char) : String :=
  go true chars
where
  go (fresh : Bool) : List Char → String
    | [] => ""
    | c :: rest =>
      if isBreak c then "\n" ++ go true rest
      else (if fresh then spaces indent else "") ++ String.singleton c ++ go false rest

def levelWidth : Nat := 4

/-- The header of a literal block: its indentation if that cannot be seen, and how it ends. -/
def literalHeader (chars : List Char) : String :=
  (if chars.head?.any (fun c => c == ' ' || isBreak c) then "|" ++ toString levelWidth else "|") ++
    match chars.reverse with
    | last :: rest =>
      if !isBreak last then "-"
      else match rest with
        | [] => "+"
        | before :: _ => if isBreak before then "+" else ""
    | [] => "-"

/-- A string in its form; a literal block is indented. -/
def stringText (isKey : Bool) (indent : Nat) (text : String) : String :=
  match formOf isKey text with
  | .plain => text
  | .single => "'" ++ String.ofList (text.toList.flatMap fun c =>
    if c == '\'' then ['\'', '\''] else [c]) ++ "'"
  | .double => "\"" ++ String.join (text.toList.map escapeChar) ++ "\""
  | .literal =>
    let body := literalLines indent text.toList
    literalHeader text.toList ++ "\n" ++
      (if text.toList.getLast?.any isBreak then String.ofList body.toList.dropLast else body)

def numberText (literal : String) : String :=
  match Decimal.rounded? literal with
  | some value => value.scientific Decimal.Notation.general
  | none => literal

def deeper (indent : Nat) : Nat :=
  levelWidth * ((indent + levelWidth) / levelWidth)

def maxSimpleKey : Nat := 128

mutual

/-- A value behind a dash or at the top, where nested blocks start on the same line and continue
at an indentation. -/
def inlineText (indent : Nat) (scalarIndent : Nat) : Json → String
  | .array [] => "[]"
  | .object [] => "\x7b\x7d"
  | .array (item :: rest) =>
    "- " ++ inlineText (indent + 2) (indent + 2) item ++ itemTexts indent rest
  | .object ((key, value) :: rest) =>
    keyText indent key ++ valueText indent value ++ memberTexts indent rest
  | .null => "null"
  | .bool value => if value then "true" else "false"
  | .number literal => numberText literal
  | .string text => stringText false scalarIndent text

def itemTexts (indent : Nat) : List Json → String
  | [] => ""
  | item :: rest =>
    "\n" ++ spaces indent ++ "- " ++ inlineText (indent + 2) (indent + 2) item ++
      itemTexts indent rest

def memberTexts (indent : Nat) : List (String × Json) → String
  | [] => ""
  | (key, value) :: rest =>
    "\n" ++ spaces indent ++ keyText indent key ++ valueText indent value ++
      memberTexts indent rest

/-- A value behind its key: a block below it, or a scalar on its line. -/
def valueText (indent : Nat) : Json → String
  | .array (item :: rest) =>
    "\n" ++ spaces (deeper indent) ++ "- " ++
      inlineText (deeper indent + 2) (deeper indent + 2) item ++ itemTexts (deeper indent) rest
  | .object ((key, value) :: rest) =>
    "\n" ++ spaces (deeper indent) ++ keyText (deeper indent) key ++
      valueText (deeper indent) value ++ memberTexts (deeper indent) rest
  | .array [] => " []"
  | .object [] => " \x7b\x7d"
  | .null => " null"
  | .bool value => if value then " true" else " false"
  | .number literal => " " ++ numberText literal
  | .string text => " " ++ stringText false (deeper indent) text

/-- A key and the colon behind it; a long one has a line of its own. -/
def keyText (indent : Nat) (key : String) : String :=
  let text := stringText true (deeper indent) key
  if key.utf8ByteSize ≤ maxSimpleKey then text ++ ":"
  else "? " ++ text ++ "\n" ++ spaces indent ++ ":"

end

def write (value : Json) : String :=
  inlineText 0 levelWidth value ++ "\n"

/-- The value of the digits in front of some characters, behind a number read so far. -/
def leadingNumber (start : Nat) (chars : List Char) : Nat × Nat :=
  let digits := chars.takeWhile Text.isDigit
  (digits.foldl (fun value c => value * 10 + (c.toNat - '0'.toNat)) start, digits.length)

/-- Whether one key comes before another: numbers inside keys count by their value, and other
characters stand in front of letters.  The characters before the place of comparison, in which
both keys agree, stand in reverse. -/
def keyBefore (agreed : List Char) : List Char → List Char → Bool
  | a :: left, b :: right =>
    if a == b then keyBefore (a :: agreed) left right
    else
      let isLetterA := Text.isLetter a
      let isLetterB := Text.isLetter b
      if isLetterA && isLetterB then a < b
      else if isLetterA || isLetterB then
        if agreed.head?.any Text.isDigit then isLetterA else isLetterB
      else
        let start := if (a == '0' || b == '0') &&
            (agreed.takeWhile Text.isDigit).any (· != '0') then 1 else 0
        let (valueA, lengthA) := leadingNumber start (a :: left)
        let (valueB, lengthB) := leadingNumber start (b :: right)
        if valueA != valueB then valueA < valueB
        else if lengthA != lengthB then lengthA < lengthB
        else a < b
  | [], _ :: _ => true
  | _, [] => false

def sortMembers (members : List (String × Json)) : List (String × Json) :=
  members.mergeSort fun left right => !keyBefore [] right.1.toList left.1.toList

mutual

def sorted : Json → Json
  | .array items => .array (sortedItems items)
  | .object members => .object (sortMembers (sortedMembers members))
  | value => value

def sortedItems : List Json → List Json
  | [] => []
  | item :: rest => sorted item :: sortedItems rest

def sortedMembers : List (String × Json) → List (String × Json)
  | [] => []
  | (key, value) :: rest => (key, sorted value) :: sortedMembers rest

end

end ShapeForge.Yaml
