import ShapeForge.Pattern.Group
import ShapeForge.Text.Blank
import ShapeForge.Text.Quoted

/-!
# Checking patterns

Patterns are regular expressions without back references and look-around, so that they can be
matched in linear time.  `Pattern.check` accepts those that can be compiled and reports the first
problem of others, with the part of the pattern that it is about.
-/

namespace ShapeForge.Pattern

inductive ProblemKind where
  | missingParen
  | unexpectedParen
  | missingRepeatArgument
  | nestedRepeat
  | repeatSize
  | perlSyntax
  | namedCapture
  | trailingBackslash
  | escape
  | missingBracket
  | characterRange
  deriving DecidableEq, Repr

namespace ProblemKind

def message : ProblemKind → String
  | .missingParen => "missing closing )"
  | .unexpectedParen => "unexpected )"
  | .missingRepeatArgument => "missing argument to repetition operator"
  | .nestedRepeat => "invalid nested repetition operator"
  | .repeatSize => "invalid repeat count"
  | .perlSyntax => "invalid or unsupported Perl syntax"
  | .namedCapture => "invalid named capture"
  | .trailingBackslash => "trailing backslash at end of expression"
  | .escape => "invalid escape sequence"
  | .missingBracket => "missing closing ]"
  | .characterRange => "invalid character class range"

end ProblemKind

structure Problem where
  kind : ProblemKind
  part : String
  deriving DecidableEq, Repr

namespace Problem

def message (problem : Problem) : String :=
  "error parsing regexp: " ++ problem.kind.message ++ ": \x60" ++ problem.part ++ "\x60"

end Problem

/-- The repetitions of a pattern; everything that does not repeat is an atom. -/
inductive Repetition where
  | atom
  | group (parts : List Repetition)
  /-- A part that occurs a number of times, without upper bound if it has none. -/
  | times (least : Nat) (most : Option Nat) (part : Repetition)
  deriving Repr, Inhabited

def maxRepeat : Nat := 1000

namespace Repetition

/-- What is left of a budget of repetitions, if it suffices. -/
def spend (budget least : Nat) (most : Option Nat) : Option Nat :=
  let count := most.getD least
  if most == some 0 then some budget
  else if count > budget then none
  else some (if count > 0 then budget / count else budget)

mutual

def fits (budget : Nat) : Repetition → Bool
  | .atom => true
  | .group parts => allFit budget parts
  | .times least most part =>
    if most == some 0 then true
    else match spend budget least most with
      | none => false
      | some rest => fits rest part

def allFit (budget : Nat) : List Repetition → Bool
  | [] => true
  | part :: rest => fits budget part && allFit budget rest

end

end Repetition

/-- An open group: the alternatives before the last bar, and the parts behind it, the last part
first. -/
structure Frame where
  before : List Repetition := []
  parts : List Repetition := []
  deriving Inhabited

namespace Frame

def push (frame : Frame) (part : Repetition) : Frame :=
  { frame with parts := part :: frame.parts }

def bar (frame : Frame) : Frame :=
  { before := .group frame.parts :: frame.before }

def close (frame : Frame) : Repetition :=
  .group (frame.parts ++ frame.before)

end Frame

structure Groups where
  current : Frame := {}
  outer : List Frame := []
  deriving Inhabited

namespace Groups

def push (groups : Groups) (part : Repetition) : Groups :=
  { groups with current := groups.current.push part }

def enter (groups : Groups) : Groups :=
  { current := {}, outer := groups.current :: groups.outer }

end Groups

def between (before after : List Char) : String :=
  String.ofList (before.take (before.length - after.length))

def problem {α : Type} (kind : ProblemKind) (before after : List Char) : Except Problem α :=
  .error { kind, part := between before after }

/-- The number in braces behind `\x`, or where reading it stopped. -/
def readBracedHex (digits value : Nat) : List Char → Except (List Char) (Nat × List Char)
  | [] => .error []
  | '\x7d' :: rest => if digits == 0 then .error rest else .ok (value, rest)
  | c :: rest =>
    match Text.hexDigit? c with
    | none => .error rest
    | some digit =>
      let value := value * 16 + digit
      if value > 0x10FFFF then .error rest else readBracedHex (digits + 1) value rest

def isOctal (c : Char) : Bool :=
  '0' ≤ c && c ≤ '7'

def readOctal (first : Char) (rest : List Char) : Nat × List Char :=
  let more := (rest.take 2).takeWhile isOctal
  ((first :: more).foldl (fun value c => value * 8 + (c.toNat - '0'.toNat)) 0,
    rest.drop more.length)

def readEscape (whole : List Char) : Except Problem (Nat × List Char) :=
  match whole with
  | [] => problem .trailingBackslash [] []
  | [_] => problem .trailingBackslash [] []
  | _ :: c :: rest =>
    if c == 'x' then
      match rest with
      | [] => problem .escape whole []
      | '\x7b' :: inside =>
        match readBracedHex 0 0 inside with
        | .ok found => .ok found
        | .error stopped => problem .escape whole stopped
      | [_] => problem .escape whole []
      | a :: b :: after =>
        match Text.hexDigit? a, Text.hexDigit? b with
        | some high, some low => .ok (high * 16 + low, after)
        | _, _ => problem .escape whole after
    else if c == '0' || (isOctal c && (rest.head?.map isOctal).getD false) then
      .ok (readOctal c rest)
    else if "afnrtv".toList.contains c then .ok (c.toNat, rest)
    else if c.toNat < 128 && !c.isAlphanum then .ok (c.toNat, rest)
    else problem .escape whole rest

def readUnicodeGroup (whole : List Char) : Except Problem (Unit × List Char) :=
  match whole.drop 2 with
  | '\x7b' :: inside =>
    match inside.span (· != '\x7d') with
    | (_, []) => problem .characterRange whole []
    | (name, _ :: rest) =>
      let name := if name.head? == some '^' then name.drop 1 else name
      if isUnicodeGroup (String.ofList name) then .ok ((), rest)
      else problem .characterRange whole rest
  | [] => problem .characterRange whole []
  | c :: rest =>
    if c != '^' && isUnicodeGroup (String.ofList [c]) then .ok ((), rest)
    else problem .characterRange whole rest

def startsUnicodeGroup : List Char → Bool
  | '\\' :: c :: _ => c == 'p' || c == 'P'
  | _ => false

def startsLetterClass : List Char → Bool
  | '\\' :: c :: _ => "dDsSwW".toList.contains c
  | _ => false

def readClassChar (whole : List Char) : List Char → Except Problem (Nat × List Char)
  | [] => problem .missingBracket whole []
  | '\\' :: rest => readEscape ('\\' :: rest)
  | c :: rest => .ok (c.toNat, rest)

def cutClassName : List Char → Option (List Char × List Char)
  | ':' :: ']' :: rest => some ([], rest)
  | c :: rest => (cutClassName rest).map fun (name, after) => (c :: name, after)
  | [] => none

/-- One item of a class: a named class, a group, a character or a range. -/
def readClassItem (whole chars : List Char) : Except Problem (Unit × List Char) :=
  let named := match chars with
    | '[' :: ':' :: inside => if inside.isEmpty then none else cutClassName inside
    | _ => none
  match named with
  | some (name, rest) =>
    if isClass (String.ofList name) then .ok ((), rest)
    else problem .characterRange chars rest
  | none =>
    if startsUnicodeGroup chars then readUnicodeGroup chars
    else if startsLetterClass chars then .ok ((), chars.drop 2)
    else do
      let (low, rest) ← readClassChar whole chars
      match rest with
      | '-' :: next :: after =>
        if next == ']' then return ((), rest)
        else
          let (high, rest) ← readClassChar whole (next :: after)
          if high < low then problem .characterRange chars rest else return ((), rest)
      | _ => return ((), rest)

/-- The items of a class up to its bracket, which may stand first as an item. -/
def readClassItems (whole : List Char) : Nat → Bool → List Char → Except Problem (Unit × List Char)
  | 0, _, _ => problem .missingBracket whole []
  | fuel + 1, first, chars =>
    match chars with
    | ']' :: rest =>
      if first then do
        let (_, rest) ← readClassItem whole chars
        readClassItems whole fuel false rest
      else .ok ((), rest)
    | _ => do
      let (_, rest) ← readClassItem whole chars
      readClassItems whole fuel false rest

def readClass (whole : List Char) : Except Problem (Unit × List Char) :=
  let inside := whole.drop 1
  let inside := if inside.head? == some '^' then inside.drop 1 else inside
  readClassItems whole (inside.length + 1) true inside

/-- A number without leading zeros; `none` marks one that is too big. -/
def readCount (chars : List Char) : Option (Option Nat × List Char) :=
  let (digits, rest) := chars.span Char.isDigit
  match digits with
  | [] => none
  | '0' :: _ :: _ => none
  | _ =>
    let value := digits.foldl (fun value c => value * 10 + (c.toNat - '0'.toNat)) 0
    some (if value < 1000000000 then some value else none, rest)

/-- Bounds in braces: the least and the most, and the rest.  Inner `none`s mark a number that is
too big and an absent upper bound. -/
def readBounds (chars : List Char) : Option ((Option Nat × Option (Option Nat)) × List Char) :=
  match readCount chars with
  | none => none
  | some (least, '\x7d' :: rest) => some ((least, some least), rest)
  | some (least, ',' :: '\x7d' :: rest) => some ((least, none), rest)
  | some (least, ',' :: rest) =>
    match readCount rest with
    | some (most, '\x7d' :: rest) => some ((least, some most), rest)
    | _ => none
  | some _ => none

/-- Apply a repetition to the last part.  `previous` is the text from the repetition directly
before, which may not be repeated again. -/
def repeatLast (groups : Groups) (before after previous : List Char)
    (wrap : Repetition → Repetition) : Except Problem (Groups × List Char) :=
  let after := if after.head? == some '?' then after.drop 1 else after
  if !previous.isEmpty then problem .nestedRepeat previous after
  else match groups.current.parts with
    | [] => problem .missingRepeatArgument before after
    | part :: parts =>
      let repeated := wrap part
      if !repeated.fits maxRepeat then problem .repeatSize before after
      else .ok ({ groups with current := { groups.current with parts := repeated :: parts } },
        after)

/-- Flags and what follows them: a colon opens a group, a parenthesis ends the setting. -/
def readFlags (whole : List Char) : Bool → Bool → List Char → Except Problem (Bool × List Char)
  | _, _, [] => problem .perlSyntax whole []
  | negative, seen, c :: rest =>
    if "imsU".toList.contains c then readFlags whole negative true rest
    else if c == '-' && !negative then readFlags whole true false rest
    else if (c == ':' || c == ')') && (!negative || seen) then .ok (c == ':', rest)
    else problem .perlSyntax whole rest

def isCaptureName (name : List Char) : Bool :=
  !name.isEmpty && name.all fun c => c == '_' || c.isAlphanum

def readCaptureName (whole inside : List Char) : Except Problem (Unit × List Char) :=
  match inside.span (· != '>') with
  | (_, []) => problem .namedCapture whole []
  | (name, _ :: rest) =>
    if isCaptureName name then .ok ((), rest) else problem .namedCapture whole rest

/-- A group that starts with a question mark; tells whether it opens one. -/
def readSpecialGroup (whole : List Char) : Except Problem (Bool × List Char) :=
  match whole.drop 2 with
  | 'P' :: '<' :: c :: rest => do
    let (_, rest) ← readCaptureName whole (c :: rest)
    return (true, rest)
  | '<' :: c :: rest => do
    let (_, rest) ← readCaptureName whole (c :: rest)
    return (true, rest)
  | inside => readFlags whole false false inside

def closeGroup (pattern : String) (groups : Groups) : Except Problem Groups :=
  match groups.outer with
  | [] => .error { kind := .unexpectedParen, part := pattern }
  | frame :: outer => .ok { current := frame.push groups.current.close, outer }

def readQuoted : List Char → Nat × List Char
  | '\\' :: 'E' :: rest => (0, rest)
  | _ :: rest =>
    let (count, after) := readQuoted rest
    (count + 1, after)
  | [] => (0, [])

def readBackslash (groups : Groups) (chars : List Char) : Except Problem (Groups × List Char) :=
  match chars with
  | '\\' :: 'A' :: rest => .ok (groups.push .atom, rest)
  | '\\' :: 'b' :: rest => .ok (groups.push .atom, rest)
  | '\\' :: 'B' :: rest => .ok (groups.push .atom, rest)
  | '\\' :: 'z' :: rest => .ok (groups.push .atom, rest)
  | '\\' :: 'C' :: rest => problem .escape chars rest
  | '\\' :: 'Q' :: rest =>
    let (count, after) := readQuoted rest
    .ok (if count == 0 then groups else groups.push .atom, after)
  | _ =>
    if startsUnicodeGroup chars then do
      let (_, rest) ← readUnicodeGroup chars
      return (groups.push .atom, rest)
    else if startsLetterClass chars then .ok (groups.push .atom, chars.drop 2)
    else do
      let (_, rest) ← readEscape chars
      return (groups.push .atom, rest)

def readParts (pattern : String) : Nat → Groups → List Char → List Char → Except Problem Groups
  | 0, groups, _, _ => .ok groups
  | _ + 1, groups, _, [] => .ok groups
  | fuel + 1, groups, previous, c :: rest => do
    let chars := c :: rest
    match c with
    | '(' =>
      if rest.head? == some '?' then
        let (opens, after) ← readSpecialGroup chars
        readParts pattern fuel (if opens then groups.enter else groups) [] after
      else readParts pattern fuel groups.enter [] rest
    | '|' =>
      readParts pattern fuel { groups with current := groups.current.bar } [] rest
    | ')' =>
      let groups ← closeGroup pattern groups
      readParts pattern fuel groups [] rest
    | '[' =>
      let (_, after) ← readClass chars
      readParts pattern fuel (groups.push .atom) [] after
    | '*' | '+' | '?' =>
      let (groups, after) ← repeatLast groups chars rest previous fun part => .group [part]
      readParts pattern fuel groups chars after
    | '\x7b' =>
      match readBounds rest with
      | none => readParts pattern fuel (groups.push .atom) [] rest
      | some ((least, most), after) =>
        match least, most with
        | some least, none =>
          if least > maxRepeat then problem .repeatSize chars after
          let (groups, after) ← repeatLast groups chars after previous (.times least none)
          readParts pattern fuel groups chars after
        | some least, some (some most) =>
          if least > maxRepeat || most > maxRepeat || least > most then
            problem .repeatSize chars after
          let (groups, after) ←
            repeatLast groups chars after previous (.times least (some most))
          readParts pattern fuel groups chars after
        | _, _ => problem .repeatSize chars after
    | '\\' =>
      let (groups, after) ← readBackslash groups chars
      readParts pattern fuel groups [] after
    | _ => readParts pattern fuel (groups.push .atom) [] rest

def check (pattern : String) : Except Problem Unit := do
  let chars := pattern.toList
  let groups ← readParts pattern (chars.length + 1) {} [] chars
  if groups.outer.isEmpty then return () else throw { kind := .missingParen, part := pattern }

end ShapeForge.Pattern
