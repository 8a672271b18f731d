import ShapeForge.Text.Quoted
import ShapeForge.Yaml.Token

/-!
# Scalars

Reading the text of a plain, a quoted and a block scalar.  Line breaks inside a scalar fold: one
break between two words is a space, further breaks stay.  Every reader starts at the first
character of the scalar and returns its text and the cursor behind it.
-/

namespace ShapeForge.Yaml

abbrev Scan := Except SyntaxError

def failAt {α : Type} (mark : Mark) (problem : String) : Scan α :=
  .error { mark, problem }

/-- White space between two words of a scalar, not yet known to be inside it. -/
structure Gap where
  blanks : List Char := []
  first : List Char := []
  more : List Char := []
  broken : Bool := false

namespace Gap

def text (gap : Gap) : List Char :=
  if gap.broken then
    if gap.first.head? == some '\n' then
      if gap.more.isEmpty then [' '] else gap.more
    else gap.first ++ gap.more
  else gap.blanks

/-- Read on over blanks and line breaks.  A tab left of `tabLimit` on a continuation line is an
error. -/
def read (tabLimit : Option Nat) (start : Mark) : Nat → Gap → Cursor → Scan (Gap × Cursor)
  | 0, gap, cursor => .ok (gap, cursor)
  | fuel + 1, gap, cursor =>
    match cursor.peek? with
    | none => .ok (gap, cursor)
    | some c =>
      if isBlank c then
        if gap.broken && c == '\t' && tabLimit.any (cursor.mark.column < ·) then
          failAt start "found a tab character that violates indentation"
        else if gap.broken then
          read tabLimit start fuel gap cursor.skip
        else
          read tabLimit start fuel { gap with blanks := gap.blanks ++ [c] } cursor.skip
      else if isBreak c then
        if gap.broken then
          read tabLimit start fuel { gap with more := gap.more ++ cursor.lineBreak }
            cursor.skipLine
        else
          read tabLimit start fuel
            { gap with blanks := [], first := cursor.lineBreak, broken := true }
            cursor.skipLine
      else .ok (gap, cursor)

end Gap

/-! ## Plain scalars -/

def isFlowIndicator (c : Char) : Bool :=
  c == ',' || c == '?' || c == '[' || c == ']' || c == '\x7b' || c == '\x7d'

/-- The longest run of characters that belong to one word of a plain scalar. -/
def plainWord (inFlow : Bool) : List Char → List Char
  | [] => []
  | c :: rest =>
    if isBlank c || isBreak c then []
    else if c == ':' && rest.head?.all (fun d => isBlank d || isBreak d) then []
    else if inFlow && isFlowIndicator c then []
    else c :: plainWord inFlow rest

/-- The words of a plain scalar from here on, where `gap` separates the next word from `text`,
which stands in reverse.  The last component tells whether the scalar was followed by a line break. -/
def plainWords (inFlow : Bool) (indent : Nat) (start : Mark) :
    Nat → List Char → Gap → Cursor → Scan (List Char × Cursor × Bool)
  | 0, text, gap, cursor => .ok (text, cursor, gap.broken)
  | fuel + 1, text, gap, cursor => do
    if cursor.atDocumentIndicator || cursor.at? '#' then
      return (text, cursor, gap.broken)
    let word := plainWord inFlow cursor.rest
    let (text, gap) := if word.isEmpty then (text, gap) else (word.reverseAux (gap.text.reverseAux text), {})
    let cursor := cursor.skipMany word.length
    if !cursor.holdsAt 0 fun c => isBlank c || isBreak c then
      return (text, cursor, gap.broken)
    let (gap, cursor) ← gap.read (some indent) start cursor.budget cursor
    if !inFlow && cursor.mark.column < indent then
      return (text, cursor, gap.broken)
    plainWords inFlow indent start fuel text gap cursor

def scanPlain (inFlow : Bool) (indent : Nat) (cursor : Cursor) :
    Scan (String × Cursor × Bool) := do
  let (text, cursor, broken) ←
    plainWords inFlow indent cursor.mark cursor.budget [] {} cursor
  return (String.ofList text.reverse, cursor, broken)

/-! ## Quoted scalars -/

def hexNumber? (digits : List Char) : Option Nat :=
  digits.foldlM (fun value c => (Text.hexDigit? c).map fun digit => value * 16 + digit) 0

def escapedChar? : Char → Option Char
  | '0' => some (Char.ofNat 0)
  | 'a' => some (Char.ofNat 7)
  | 'b' => some (Char.ofNat 8)
  | 't' => some '\t'
  | '\t' => some '\t'
  | 'n' => some '\n'
  | 'v' => some (Char.ofNat 11)
  | 'f' => some (Char.ofNat 12)
  | 'r' => some '\r'
  | 'e' => some (Char.ofNat 27)
  | ' ' => some ' '
  | '"' => some '"'
  | '\'' => some '\''
  | '\\' => some '\\'
  | 'N' => some (Char.ofNat 0x85)
  | '_' => some (Char.ofNat 0xA0)
  | 'L' => some (Char.ofNat 0x2028)
  | 'P' => some (Char.ofNat 0x2029)
  | _ => none

def escapeLength? : Char → Option Nat
  | 'x' => some 2
  | 'u' => some 4
  | 'U' => some 8
  | _ => none

def scanEscape (start : Mark) (cursor : Cursor) : Scan (Char × Cursor) :=
  match cursor.peekAt? 1 with
  | none => failAt start "found unknown escape character"
  | some letter =>
    match escapedChar? letter, escapeLength? letter with
    | some c, _ => .ok (c, cursor.skipMany 2)
    | none, none => failAt start "found unknown escape character"
    | none, some count =>
      let digits := (cursor.rest.drop 2).take count
      match hexNumber? digits with
      | none => failAt start "did not find expected hexadecimal number"
      | some code =>
        if digits.length < count then
          failAt start "did not find expected hexadecimal number"
        else if (0xD800 ≤ code && code ≤ 0xDFFF) || 0x10FFFF < code then
          failAt start "found invalid Unicode character escape code"
        else .ok (Char.ofNat code, cursor.skipMany (2 + count))

/-- The characters of a quoted scalar up to the next white space or its closing mark, put in
reverse before `text`.  The last component tells whether an escaped line break was passed. -/
def quotedRun (single : Bool) (start : Mark) :
    Nat → List Char → Cursor → Scan (List Char × Cursor × Bool)
  | 0, text, cursor => .ok (text, cursor, false)
  | fuel + 1, text, cursor =>
    match cursor.peek? with
    | none => .ok (text, cursor, false)
    | some c =>
      if isBlank c || isBreak c then .ok (text, cursor, false)
      else if single && c == '\'' then
        if cursor.holdsAt 1 (· == '\'') then
          quotedRun single start fuel ('\'' :: text) (cursor.skipMany 2)
        else .ok (text, cursor, false)
      else if !single && c == '"' then .ok (text, cursor, false)
      else if !single && c == '\\' then
        if cursor.holdsAt 1 isBreak then .ok (text, cursor.skip.skipLine, true)
        else do
          let (char, cursor) ← scanEscape start cursor
          quotedRun single start fuel (char :: text) cursor
      else
        let run := cursor.rest.takeWhile fun d =>
          !(isBlank d || isBreak d || d == '\'' || d == '"' || d == '\\')
        let run := if run.isEmpty then [c] else run
        quotedRun single start fuel (run.reverseAux text) (cursor.skipMany run.length)

def quotedRest (single : Bool) (start : Mark) :
    Nat → List Char → Cursor → Scan (List Char × Cursor)
  | 0, _, _ => failAt start "found unexpected end of stream"
  | fuel + 1, text, cursor => do
    if cursor.atDocumentIndicator then
      failAt start "found unexpected document indicator"
    else if cursor.atEnd then
      failAt start "found unexpected end of stream"
    else
      let (text, cursor, escaped) ←
        quotedRun single start cursor.budget text cursor
      if cursor.at? (if single then '\'' else '"') then
        return (text, cursor.skip)
      let (gap, cursor) ←
        Gap.read none start cursor.budget { broken := escaped } cursor
      quotedRest single start fuel (gap.text.reverseAux text) cursor

def scanQuoted (single : Bool) (cursor : Cursor) : Scan (String × Cursor) := do
  let (text, cursor) ←
    quotedRest single cursor.mark cursor.budget [] cursor.skip
  return (String.ofList text.reverse, cursor)

/-! ## Block scalars -/

/-- What becomes of the line breaks at the end of a block scalar. -/
inductive Chomping where
  | strip
  | clip
  | keep
  deriving BEq

def scanChomping (cursor : Cursor) : Option Chomping × Cursor :=
  if cursor.at? '+' then (some .keep, cursor.skip)
  else if cursor.at? '-' then (some .strip, cursor.skip)
  else (none, cursor)

/-- The indentation indicator, if there is one here; zero is refused. -/
def scanIncrement (start : Mark) (cursor : Cursor) : Scan (Nat × Cursor) :=
  match cursor.peek? with
  | some c =>
    if c == '0' then failAt start "found an indentation indicator equal to 0"
    else if c.isDigit then .ok (c.toNat - '0'.toNat, cursor.skip)
    else .ok (0, cursor)
  | none => .ok (0, cursor)

/-- The indicators after `|` or `>`, in either order. -/
def scanBlockHeader (start : Mark) (cursor : Cursor) : Scan (Chomping × Nat × Cursor) := do
  match scanChomping cursor with
  | (some chomping, cursor) =>
    let (increment, cursor) ← scanIncrement start cursor
    return (chomping, increment, cursor)
  | (none, cursor) =>
    let (increment, cursor) ← scanIncrement start cursor
    if increment == 0 then return (.clip, 0, cursor)
    let (chomping, cursor) := scanChomping cursor
    return (chomping.getD .clip, increment, cursor)

/-- Spaces up to the indentation, where an unknown indentation admits any number of them. -/
def skipIndent (indent : Nat) : Nat → Cursor → Cursor
  | 0, cursor => cursor
  | fuel + 1, cursor =>
    if (indent == 0 || cursor.mark.column < indent) && cursor.at? ' ' then
      skipIndent indent fuel cursor.skip
    else cursor

/-- Indentation and empty lines.  Returns the breaks passed and the widest indentation seen. -/
def blockBreaks (indent : Nat) (start : Mark) :
    Nat → List Char → Nat → Cursor → Scan (List Char × Nat × Cursor)
  | 0, breaks, widest, cursor => .ok (breaks, widest, cursor)
  | fuel + 1, breaks, widest, cursor =>
    let cursor := skipIndent indent cursor.budget cursor
    let widest := max widest cursor.mark.column
    if (indent == 0 || cursor.mark.column < indent) && cursor.at? '\t' then
      failAt start "found a tab character where an indentation space is expected"
    else if cursor.holdsAt 0 isBreak then
      blockBreaks indent start fuel (breaks ++ cursor.lineBreak) widest cursor.skipLine
    else .ok (breaks, widest, cursor)

/-- The lines of a block scalar of known indentation, in reverse.  `pending` is the break after the text so
far and `breaks` the empty lines that follow it. -/
def blockLines (literal : Bool) (indent : Nat) (start : Mark) :
    Nat → List Char → List Char → List Char → Bool → Cursor →
      Scan (List Char × List Char × List Char × Cursor)
  | 0, text, pending, breaks, _, cursor => .ok (text, pending, breaks, cursor)
  | fuel + 1, text, pending, breaks, afterBlank, cursor => do
    if cursor.mark.column != indent || cursor.atEnd then
      return (text, pending, breaks, cursor)
    let startsBlank := cursor.holdsAt 0 isBlank
    let joint :=
      if !literal && !afterBlank && !startsBlank && pending.head? == some '\n' then
        if breaks.isEmpty then [' '] else []
      else pending
    let (line, cursor) := cursor.takeWhile (!isBreak ·)
    let pending := cursor.lineBreak
    let text := line.reverseAux (breaks.reverseAux (joint.reverseAux text))
    let (breaks, _, cursor) ←
      blockBreaks indent start cursor.budget [] 0 cursor.skipLine
    blockLines literal indent start fuel text pending breaks startsBlank cursor

def scanBlock (literal : Bool) (blockIndent : Int) (cursor : Cursor) :
    Scan (String × Cursor) := do
  let start := cursor.mark
  let (chomping, increment, cursor) ← scanBlockHeader start cursor.skip
  let cursor := cursor.skipWhile isBlank
  let cursor := if cursor.at? '#' then cursor.skipWhile (!isBreak ·) else cursor
  if !cursor.breakOrEnd then
    failAt start "did not find expected comment or line break"
  else
    let cursor := cursor.skipLine
    let given :=
      if increment == 0 then 0
      else if blockIndent ≥ 0 then blockIndent.toNat + increment
      else increment
    let (breaks, widest, cursor) ←
      blockBreaks given start cursor.budget [] 0 cursor
    let indent :=
      if given == 0 then max (max widest (blockIndent + 1).toNat) 1 else given
    let (text, pending, breaks, cursor) ←
      blockLines literal indent start cursor.budget [] [] breaks false cursor
    let tail := match chomping with
      | .strip => []
      | .clip => pending
      | .keep => pending ++ breaks
    return (String.ofList (text.reverse ++ tail), cursor)

end ShapeForge.Yaml
