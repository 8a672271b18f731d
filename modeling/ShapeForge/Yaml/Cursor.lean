/-!
# Reading position

A cursor is the text still to be read together with its place: the number of characters before
it, its line and its column, all counted from zero.  Moving over a line break starts a new line;
a carriage return followed by a line feed is one break.
-/

namespace ShapeForge.Yaml

structure Mark where
  index : Nat := 0
  line : Nat := 0
  column : Nat := 0
  deriving Repr, Inhabited, BEq

/-- The unread text and its place.  The budget exceeds the length of the whole text, so no walk
over it takes more steps. -/
structure Cursor where
  rest : List Char
  mark : Mark := {}
  budget : Nat
  deriving Inhabited

def isBlank (c : Char) : Bool :=
  c == ' ' || c == '\t'

def isBreak (c : Char) : Bool :=
  c == '\r' || c == '\n' || c.toNat == 0x85 || c.toNat == 0x2028 || c.toNat == 0x2029

/-- A character that may stand in the name of an anchor, a directive or a tag handle. -/
def isNameChar (c : Char) : Bool :=
  c.isAlphanum || c == '_' || c == '-'

def isAllowed (c : Char) : Bool :=
  let code := c.toNat
  code == 9 || code == 10 || code == 13 || (0x20 ≤ code && code ≤ 0x7E) || code == 0x85 ||
    (0xA0 ≤ code && code ≤ 0xD7FF) || (0xE000 ≤ code && code ≤ 0xFFFD) || 0x10000 ≤ code

/-- The mark that some editors put at the start of a text. -/
def byteOrderMark : Char := Char.ofNat 0xFEFF

namespace Cursor

def ofList (chars : List Char) : Cursor :=
  { rest := chars, budget := chars.length + 1 }

def peek? (cursor : Cursor) : Option Char :=
  cursor.rest.head?

def peekAt? (cursor : Cursor) (distance : Nat) : Option Char :=
  cursor.rest[distance]?

def at? (cursor : Cursor) (c : Char) : Bool :=
  cursor.peek? == some c

/-- The character at a distance satisfies the test; the end of the text does not. -/
def holdsAt (cursor : Cursor) (distance : Nat) (test : Char → Bool) : Bool :=
  (cursor.peekAt? distance).any test

def atEnd (cursor : Cursor) : Bool :=
  cursor.rest.isEmpty

/-- At a distance stands a space, a tab, a line break or the end of the text. -/
def blankOrEndAt (cursor : Cursor) (distance : Nat) : Bool :=
  match cursor.peekAt? distance with
  | none => true
  | some c => isBlank c || isBreak c

def breakOrEnd (cursor : Cursor) : Bool :=
  match cursor.peek? with
  | none => true
  | some c => isBreak c

def skip (cursor : Cursor) : Cursor :=
  match cursor.rest with
  | [] => cursor
  | _ :: rest =>
    { cursor with rest, mark := { cursor.mark with
        index := cursor.mark.index + 1, column := cursor.mark.column + 1 } }

def skipMany (cursor : Cursor) : Nat → Cursor
  | 0 => cursor
  | count + 1 => cursor.skip.skipMany count

def skipLine (cursor : Cursor) : Cursor :=
  match cursor.rest with
  | '\r' :: '\n' :: rest =>
    { cursor with rest, mark :=
        { index := cursor.mark.index + 2, line := cursor.mark.line + 1, column := 0 } }
  | c :: rest =>
    if isBreak c then
      { cursor with rest, mark :=
          { index := cursor.mark.index + 1, line := cursor.mark.line + 1, column := 0 } }
    else cursor
  | [] => cursor

/-- The text that a line break stands for in a scalar, empty where there is none. -/
def lineBreak (cursor : Cursor) : List Char :=
  match cursor.rest with
  | c :: _ =>
    if c.toNat == 0x2028 || c.toNat == 0x2029 then [c]
    else if isBreak c then ['\n']
    else []
  | [] => []

/-- Move while the characters satisfy the test, and collect them. -/
def takeWhile (cursor : Cursor) (test : Char → Bool) : List Char × Cursor :=
  let taken := cursor.rest.takeWhile test
  (taken, cursor.skipMany taken.length)

def skipWhile (cursor : Cursor) (test : Char → Bool) : Cursor :=
  (cursor.takeWhile test).2

/-- Three equal characters at the start of a line, followed by white space, separate documents. -/
def atIndicator (cursor : Cursor) (c : Char) : Bool :=
  cursor.mark.column == 0 && cursor.rest.take 3 == [c, c, c] && cursor.blankOrEndAt 3

def atDocumentIndicator (cursor : Cursor) : Bool :=
  cursor.atIndicator '-' || cursor.atIndicator '.'

end Cursor

end ShapeForge.Yaml
