import ShapeForge.Yaml.Scalar

/-!
# From text to tokens

The scanner walks the text once.  It keeps the indentation of the open blocks, the depth of open
brackets, and for every bracket level the place where a key without its indicator may have
started: only the colon behind such a key tells, and the key's token is then put in front of it.

`tokens` never fails.  Where the text cannot be read any further, a `broken` token stands at the
first place at which a reader, who looks two tokens ahead and waits for undecided keys, would
notice.
-/

namespace ShapeForge.Yaml

/-- A place where a key without indicator may have started. -/
structure KeyStart where
  /-- Nothing but a key may stand there. -/
  required : Bool
  position : Nat
  mark : Mark

structure Scanner where
  cursor : Cursor
  produced : List Token := []
  count : Nat := 0
  flowLevel : Nat := 0
  indent : Int := -1
  indents : List Int := []
  keyAllowed : Bool := true
  /-- One possible key for every bracket level, innermost first. -/
  keys : List (Option KeyStart) := [none]

namespace Scanner

def maxDepth : Nat := 10000

/-- The colon of a key stands at most this many characters behind its start. -/
def maxKeyLength : Nat := 1024

def push (scanner : Scanner) (kind : TokenKind) (start stop : Mark) : Scanner :=
  { scanner with produced := { kind, start, stop } :: scanner.produced, count := scanner.count + 1 }

def insert (scanner : Scanner) (position : Nat) (kind : TokenKind) (mark : Mark) : Scanner :=
  let behind := scanner.count - position
  { scanner with
    produced := scanner.produced.take behind ++
      { kind, start := mark, stop := mark } :: scanner.produced.drop behind
    count := scanner.count + 1 }

/-- A key is too far behind to be completed. -/
def isStale (scanner : Scanner) (key : KeyStart) : Bool :=
  key.mark.line < scanner.cursor.mark.line ||
    key.mark.index + maxKeyLength < scanner.cursor.mark.index

/-- Forget the possible key of the current level; a required one must not be forgotten. -/
def dropKey (scanner : Scanner) : Scan Scanner :=
  match scanner.keys with
  | some key :: rest =>
    if key.required then failAt key.mark "could not find expected ':'"
    else .ok { scanner with keys := none :: rest }
  | _ => .ok scanner

def saveKey (scanner : Scanner) : Scan Scanner := do
  if scanner.keyAllowed then
    let key : KeyStart :=
      { required := scanner.flowLevel == 0 && scanner.indent == (scanner.cursor.mark.column : Int)
        position := scanner.count
        mark := scanner.cursor.mark }
    let scanner ← scanner.dropKey
    return { scanner with keys := some key :: scanner.keys.drop 1 }
  else return scanner

/-- Open a block at a column, if it is deeper than the current one. -/
def rollIndent (scanner : Scanner) (column : Nat) (position : Option Nat) (kind : TokenKind)
    (mark : Mark) : Scan Scanner :=
  if scanner.flowLevel > 0 || scanner.indent ≥ (column : Int) then .ok scanner
  else if scanner.indents.length ≥ maxDepth then failAt mark "exceeded max depth"
  else
    let scanner := { scanner with
      indents := scanner.indent :: scanner.indents, indent := (column : Int) }
    .ok (scanner.insert (position.getD scanner.count) kind mark)

def unrollIndent (scanner : Scanner) (column : Int) : Scanner :=
  if scanner.flowLevel > 0 then scanner
  else go scanner scanner.indents
where
  go (scanner : Scanner) : List Int → Scanner
    | [] => scanner
    | outer :: rest =>
      if scanner.indent > column then
        go { scanner.push .blockEnd scanner.cursor.mark scanner.cursor.mark with
          indent := outer, indents := rest } rest
      else scanner

/-- Add a token that spans the next characters, and move over them. -/
def indicator (scanner : Scanner) (kind : TokenKind) (length : Nat := 1) : Scanner :=
  let after := scanner.cursor.skipMany length
  { scanner.push kind scanner.cursor.mark after.mark with cursor := after }

def advance (scanner : Scanner) (kind : TokenKind) (after : Cursor) : Scanner :=
  { scanner.push kind scanner.cursor.mark after.mark with cursor := after }

/-! ## White space and comments -/

/-- Move over a comment, and over further comments that only white space separates from it. -/
def skipComments : Nat → Cursor → Cursor
  | 0, cursor => cursor
  | fuel + 1, cursor =>
    let cursor := cursor.skipWhile (!isBreak ·)
    let gap := (cursor.rest.take 512).takeWhile fun c => isBlank c || isBreak c
    if cursor.holdsAt gap.length (· == '#') && gap.length < 512 then
      skipComments fuel (skipGap gap.length cursor)
    else cursor
where
  skipGap (length : Nat) (cursor : Cursor) : Cursor :=
    go (cursor.mark.index + length) length cursor
  go (goal : Nat) : Nat → Cursor → Cursor
    | 0, cursor => cursor
    | fuel + 1, cursor =>
      if cursor.mark.index ≥ goal then cursor
      else if cursor.holdsAt 0 isBreak then go goal fuel cursor.skipLine
      else go goal fuel cursor.skip

/-- Move to the next token.  Tabs separate tokens only where they cannot be taken for
indentation. -/
def skipToToken : Nat → Scanner → Scanner
  | 0, scanner => scanner
  | fuel + 1, scanner =>
    let cursor := scanner.cursor
    let cursor :=
      if cursor.mark.column == 0 && cursor.at? byteOrderMark then cursor.skip else cursor
    let tabs := scanner.flowLevel > 0 || !scanner.keyAllowed
    let cursor := cursor.skipWhile fun c => c == ' ' || (tabs && c == '\t')
    let cursor := if cursor.at? '#' then skipComments cursor.budget cursor else cursor
    if cursor.holdsAt 0 isBreak then
      skipToToken fuel { scanner with
        cursor := cursor.skipLine
        keyAllowed := scanner.keyAllowed || scanner.flowLevel == 0 }
    else { scanner with cursor }

def skipLineComment (scanner : Scanner) : Scanner :=
  match scanner.produced with
  | { kind := .blockEntry, .. } :: _ => scanner
  | _ =>
    let blanks := (scanner.cursor.rest.take 512).takeWhile isBlank
    if blanks.length < 512 && scanner.cursor.holdsAt blanks.length (· == '#') then
      { scanner with cursor := scanner.cursor.skipWhile (!isBreak ·) }
    else scanner

/-! ## Tags and directives -/

def isTagChar (c : Char) : Bool :=
  isNameChar c || ";/?:@&=+$,.!~*'()[]%".toList.contains c

/-- The bytes of percent escapes, at the first one. -/
def percentBytes (start : Mark) : Nat → Cursor → Scan (List UInt8 × Cursor)
  | 0, cursor => .ok ([], cursor)
  | fuel + 1, cursor =>
    if cursor.at? '%' then
      match (cursor.rest.drop 1).take 2 with
      | [high, low] =>
        match hexNumber? [high, low] with
        | some byte => do
          let (bytes, cursor) ← percentBytes start fuel (cursor.skipMany 3)
          return (byte.toUInt8 :: bytes, cursor)
        | none => failAt start "did not find URI escaped octet"
      | _ => failAt start "did not find URI escaped octet"
    else .ok ([], cursor)

def scanTagText (start : Mark) : Nat → List Char → Cursor → Scan (List Char × Cursor)
  | 0, text, cursor => .ok (text, cursor)
  | fuel + 1, text, cursor =>
    match cursor.peek? with
    | some '%' => do
      let (bytes, cursor) ← percentBytes start fuel cursor
      match String.fromUTF8? ⟨bytes.toArray⟩ with
      | some decoded => scanTagText start fuel (text ++ decoded.toList) cursor
      | none => failAt start "found an incorrect UTF-8 octet"
    | some c =>
      if isTagChar c then scanTagText start fuel (text ++ [c]) cursor.skip
      else .ok (text, cursor)
    | none => .ok (text, cursor)

/-- The handle of a tag: an exclamation mark, a name, and perhaps a second mark.  In a directive
the second mark is needed unless the handle is a single one. -/
def scanTagHandle (directive : Bool) (start : Mark) (cursor : Cursor) :
    Scan (List Char × Cursor) :=
  if !cursor.at? '!' then failAt start "did not find expected '!'"
  else
    let (name, after) := cursor.skip.takeWhile isNameChar
    if after.at? '!' then .ok ('!' :: (name ++ ['!']), after.skip)
    else if directive && !name.isEmpty then failAt start "did not find expected '!'"
    else .ok ('!' :: name, after)

/-- A tag: verbatim between angle brackets, or a handle with a suffix. -/
def scanTag (cursor : Cursor) : Scan (String × String × Cursor) := do
  let start := cursor.mark
  let (handle, suffix, after) ←
    if cursor.holdsAt 1 (· == '<') then do
      let (text, after) ← scanTagText start cursor.budget [] (cursor.skipMany 2)
      if text.isEmpty then failAt start "did not find expected tag URI"
      else if after.at? '>' then pure ([], text, after.skip)
      else failAt start "did not find the expected '>'"
    else do
      let (handle, after) ← scanTagHandle false start cursor
      if handle.length > 1 && handle.getLast? == some '!' then
        let (text, after) ← scanTagText start cursor.budget [] after
        if text.isEmpty then failAt start "did not find expected tag URI"
        else pure (handle, text, after)
      else
        let (text, after) ← scanTagText start cursor.budget (handle.drop 1) after
        if text.isEmpty then pure ([], ['!'], after) else pure (['!'], text, after)
  if after.blankOrEndAt 0 then
    return (String.ofList handle, String.ofList suffix, after)
  else failAt start "did not find expected whitespace or line break"

/-- A component of a version: one to nine digits. -/
def scanVersionPart (start : Mark) (cursor : Cursor) : Scan (Nat × Cursor) :=
  let (digits, after) := cursor.takeWhile Char.isDigit
  if digits.isEmpty then failAt start "did not find expected version number"
  else if digits.length > 9 then failAt start "found extremely long version number"
  else .ok (digits.foldl (fun value c => value * 10 + (c.toNat - '0'.toNat)) 0, after)

def scanDirective (scanner : Scanner) : Scan Scanner := do
  let start := scanner.cursor.mark
  let (name, cursor) := scanner.cursor.skip.takeWhile isNameChar
  if name.isEmpty then failAt start "could not find expected directive name"
  else if !cursor.blankOrEndAt 0 then failAt start "found unexpected non-alphabetical character"
  else
    let (kind, cursor) ←
      if name == "YAML".toList then do
        let (major, cursor) ← scanVersionPart start (cursor.skipWhile isBlank)
        if !cursor.at? '.' then failAt start "did not find expected digit or '.' character"
        else
          let (minor, cursor) ← scanVersionPart start cursor.skip
          pure (TokenKind.versionDirective major minor, cursor)
      else if name == "TAG".toList then do
        let (handle, cursor) ← scanTagHandle true start (cursor.skipWhile isBlank)
        if !cursor.holdsAt 0 isBlank then failAt start "did not find expected whitespace"
        else
          let (text, cursor) ← scanTagText start cursor.budget [] (cursor.skipWhile isBlank)
          if text.isEmpty then failAt start "did not find expected tag URI"
          else if !cursor.blankOrEndAt 0 then
            failAt start "did not find expected whitespace or line break"
          else
            pure (TokenKind.tagDirective (String.ofList handle) (String.ofList text), cursor)
      else failAt start "found unknown directive name"
    let scanner := scanner.advance kind cursor
    let cursor := cursor.skipWhile isBlank
    let cursor := if cursor.at? '#' then cursor.skipWhile (!isBreak ·) else cursor
    if cursor.breakOrEnd then return { scanner with cursor := cursor.skipLine }
    else failAt start "did not find expected comment or line break"

/-! ## One token -/

def fetchEnd (scanner : Scanner) : Scan Scanner := do
  let mark := scanner.cursor.mark
  let mark := if mark.column == 0 then mark else { mark with line := mark.line + 1, column := 0 }
  let scanner := { scanner with cursor := { scanner.cursor with mark } }
  let scanner ← (scanner.unrollIndent (-1)).dropKey
  return { scanner.push .streamEnd mark mark with keyAllowed := false }

def fetchDocumentIndicator (scanner : Scanner) (kind : TokenKind) : Scan Scanner := do
  let scanner ← (scanner.unrollIndent (-1)).dropKey
  return { scanner.indicator kind 3 with keyAllowed := false }

def fetchOpen (scanner : Scanner) (kind : TokenKind) : Scan Scanner := do
  let scanner ← scanner.saveKey
  if scanner.flowLevel ≥ maxDepth then failAt scanner.cursor.mark "exceeded max depth"
  else
    return { scanner.indicator kind with
      flowLevel := scanner.flowLevel + 1, keys := none :: scanner.keys, keyAllowed := true }

def fetchClose (scanner : Scanner) (kind : TokenKind) : Scan Scanner := do
  let scanner ← scanner.dropKey
  let keys := if scanner.flowLevel > 0 then scanner.keys.drop 1 else scanner.keys
  return { scanner.indicator kind with
    flowLevel := scanner.flowLevel - 1, keys, keyAllowed := false }

/-- A comma. -/
def fetchFlowEntry (scanner : Scanner) : Scan Scanner := do
  let scanner ← scanner.dropKey
  return { scanner.indicator .flowEntry with keyAllowed := true }

/-- A dash in front of an item. -/
def fetchBlockEntry (scanner : Scanner) : Scan Scanner := do
  let mark := scanner.cursor.mark
  if scanner.flowLevel == 0 && !scanner.keyAllowed then
    failAt mark "block sequence entries are not allowed in this context"
  else
    let scanner ← scanner.rollIndent mark.column none .blockSequenceStart mark
    let scanner ← scanner.dropKey
    return { scanner.indicator .blockEntry with keyAllowed := true }

/-- A question mark in front of a key. -/
def fetchKey (scanner : Scanner) : Scan Scanner := do
  let mark := scanner.cursor.mark
  if scanner.flowLevel == 0 && !scanner.keyAllowed then
    failAt mark "mapping keys are not allowed in this context"
  else
    let scanner ← scanner.rollIndent mark.column none .blockMappingStart mark
    let scanner ← scanner.dropKey
    return { scanner.indicator .key with keyAllowed := scanner.flowLevel == 0 }

/-- A colon in front of a value. -/
def fetchValue (scanner : Scanner) : Scan Scanner := do
  let mark := scanner.cursor.mark
  match scanner.keys with
  | some key :: rest =>
    if scanner.isStale key then
      if key.required then failAt key.mark "could not find expected ':'"
      else complexValue { scanner with keys := none :: rest } mark
    else
      let scanner := scanner.insert key.position .key key.mark
      let scanner ← scanner.rollIndent key.mark.column (some key.position) .blockMappingStart
        key.mark
      return { scanner.indicator .value with keys := none :: rest, keyAllowed := false }
  | _ => complexValue scanner mark
where
  complexValue (scanner : Scanner) (mark : Mark) : Scan Scanner := do
    if scanner.flowLevel == 0 && !scanner.keyAllowed then
      failAt mark "mapping values are not allowed in this context"
    else
      let scanner ← scanner.rollIndent mark.column none .blockMappingStart mark
      return { scanner.indicator .value with keyAllowed := scanner.flowLevel == 0 }

/-- The name of an anchor or alias, behind its indicator. -/
def fetchAnchor (scanner : Scanner) (kind : String → TokenKind) : Scan Scanner := do
  let scanner ← scanner.saveKey
  let (name, after) := scanner.cursor.skip.takeWhile isNameChar
  let ends := after.blankOrEndAt 0 || after.holdsAt 0 fun c => "?:,]\x7d%@\x60".toList.contains c
  if name.isEmpty || !ends then
    failAt scanner.cursor.mark "did not find expected alphabetic or numeric character"
  else return { scanner.advance (kind (String.ofList name)) after with keyAllowed := false }

def fetchTag (scanner : Scanner) : Scan Scanner := do
  let scanner ← scanner.saveKey
  let (handle, suffix, after) ← scanTag scanner.cursor
  return { scanner.advance (.tag handle suffix) after with keyAllowed := false }

def fetchBlock (scanner : Scanner) (literal : Bool) : Scan Scanner := do
  let scanner ← scanner.dropKey
  let (text, after) ← scanBlock literal scanner.indent scanner.cursor
  return { scanner.advance (.scalar text .quoted) after with keyAllowed := true }

def fetchQuoted (scanner : Scanner) (single : Bool) : Scan Scanner := do
  let scanner ← scanner.saveKey
  let (text, after) ← scanQuoted single scanner.cursor
  return { scanner.advance (.scalar text .quoted) after with keyAllowed := false }

def fetchPlain (scanner : Scanner) : Scan Scanner := do
  let scanner ← scanner.saveKey
  let (text, after, broken) ←
    scanPlain (scanner.flowLevel > 0) (scanner.indent + 1).toNat scanner.cursor
  return { scanner.advance (.scalar text .plain) after with keyAllowed := broken }

def isReserved (c : Char) : Bool :=
  "-?:,[]\x7b\x7d#&*!|>'\"%@\x60".toList.contains c

def startsPlain (scanner : Scanner) : Bool :=
  match scanner.cursor.peek? with
  | none => false
  | some c =>
    !(isBlank c || isBreak c || isReserved c) ||
      (c == '-' && !scanner.cursor.holdsAt 1 isBlank) ||
      (scanner.flowLevel == 0 && (c == '?' || c == ':') && !scanner.cursor.blankOrEndAt 1)

def fetchHere (scanner : Scanner) : Scan Scanner :=
  let cursor := scanner.cursor
  let inFlow := scanner.flowLevel > 0
  let opens (c : Char) := cursor.at? c && (inFlow || cursor.blankOrEndAt 1)
  if cursor.atEnd then scanner.fetchEnd
  else if cursor.mark.column == 0 && cursor.at? '%' then do
    let scanner ← (scanner.unrollIndent (-1)).dropKey
    ({ scanner with keyAllowed := false }).scanDirective
  else if cursor.atIndicator '-' then scanner.fetchDocumentIndicator .documentStart
  else if cursor.atIndicator '.' then scanner.fetchDocumentIndicator .documentEnd
  else skipLineComment <$>
    if cursor.at? '[' then scanner.fetchOpen .flowSequenceStart
    else if cursor.at? '\x7b' then scanner.fetchOpen .flowMappingStart
    else if cursor.at? ']' then scanner.fetchClose .flowSequenceEnd
    else if cursor.at? '\x7d' then scanner.fetchClose .flowMappingEnd
    else if cursor.at? ',' then scanner.fetchFlowEntry
    else if cursor.at? '-' && cursor.blankOrEndAt 1 then scanner.fetchBlockEntry
    else if opens '?' then scanner.fetchKey
    else if opens ':' then scanner.fetchValue
    else if cursor.at? '*' then scanner.fetchAnchor .alias
    else if cursor.at? '&' then scanner.fetchAnchor .anchor
    else if cursor.at? '!' then scanner.fetchTag
    else if cursor.at? '|' && !inFlow then scanner.fetchBlock true
    else if cursor.at? '>' && !inFlow then scanner.fetchBlock false
    else if cursor.at? '\'' then scanner.fetchQuoted true
    else if cursor.at? '"' then scanner.fetchQuoted false
    else if scanner.startsPlain then scanner.fetchPlain
    else failAt cursor.mark "found character that cannot start any token"

def fetch (scanner : Scanner) : Scan Scanner :=
  let scanner := scanner.skipToToken scanner.cursor.budget
  (scanner.unrollIndent scanner.cursor.mark.column).fetchHere

/-! ## All tokens -/

/-- The position of the first token whose role as a key is undecided. -/
def undecided (scanner : Scanner) : Nat :=
  scanner.keys.foldl (fun least key =>
    match key with
    | some key => if scanner.isStale key then least else min least key.position
    | none => least) scanner.count

/-- The tokens up to where a reader would notice that the text cannot be read on. -/
def brokenOff (scanner : Scanner) : List Token :=
  let kept := min (scanner.count - 2) scanner.undecided
  scanner.produced.reverse.take kept ++
    [{ kind := .broken, start := scanner.cursor.mark, stop := scanner.cursor.mark }]

def finished (scanner : Scanner) : Bool :=
  match scanner.produced with
  | { kind := .streamEnd, .. } :: _ => true
  | _ => false

def run : Nat → Scanner → List Token
  | 0, scanner => scanner.brokenOff
  | fuel + 1, scanner =>
    if scanner.finished then scanner.produced.reverse
    else match scanner.fetch with
      | .ok next => run fuel next
      | .error _ => scanner.brokenOff

end Scanner

def tokens (text : String) : List Token :=
  let chars := match text.toList with
    | c :: rest => if c == byteOrderMark then rest else c :: rest
    | [] => []
  if chars.all isAllowed then
    let cursor := Cursor.ofList chars
    Scanner.run (2 * cursor.budget) { cursor }
  else [{ kind := .broken, start := {}, stop := {} }]

end ShapeForge.Yaml
