import ShapeForge.Word
import ShapeForge.Text.Blank

/-!
# Versions

Semantic versions with their precedence.  Reading is lenient: a leading `v`, missing minor and
patch numbers and leading zeros are accepted, and the text that was read is remembered.
-/

namespace ShapeForge

structure Version where
  major : Nat
  minor : Nat
  patch : Nat
  /-- The pre-release identifiers, empty for a release. -/
  preRelease : List String := []
  /-- Build metadata, which does not count for precedence. -/
  metadata : String := ""
  original : String
  deriving Repr, Inhabited, DecidableEq

namespace Version

def text (version : Version) : String :=
  s!"{version.major}.{version.minor}.{version.patch}" ++
    (if version.preRelease.isEmpty then "" else "-" ++ ".".intercalate version.preRelease) ++
    (if version.metadata.isEmpty then "" else "+" ++ version.metadata)

instance : ToString Version where
  toString := text

def limit : Nat := Word.count

def number? (digits : List Char) : Option Nat :=
  if digits.isEmpty || !digits.all Char.isDigit then none
  else
    let value := digits.foldl (fun value c => value * 10 + (c.toNat - '0'.toNat)) 0
    if value < limit then some value else none

def isIdentifierChar (c : Char) : Bool :=
  c.isAlphanum || c == '-'

def identifiers? (chars : List Char) : Option (List String) :=
  let parts := Text.splitWhere (· == '.') chars
  if parts.all fun part => !part.isEmpty && part.all isIdentifierChar then
    some (parts.map String.ofList)
  else none

/-- A pre-release identifier of digits has no leading zero. -/
def isPreRelease (identifier : String) : Bool :=
  let chars := identifier.toList
  !(chars.all Char.isDigit && chars.length > 1 && chars.head? == some '0')

/-- A dot and a number, or zero where there is no dot followed by a digit. -/
def readPart (chars : List Char) : Option (Nat × List Char) :=
  match chars with
  | '.' :: rest =>
    match rest.span Char.isDigit with
    | ([], _) => none
    | (digits, after) => (number? digits).map (·, after)
  | _ => some (0, chars)

def readPreRelease (chars : List Char) : Option (List String × List Char) :=
  match chars with
  | '-' :: rest =>
    let (inside, after) := rest.span (· != '+')
    (identifiers? inside).bind fun identifiers =>
      if identifiers.all isPreRelease then some (identifiers, after) else none
  | _ => some ([], chars)

/-- The metadata behind a plus, which ends the text. -/
def readMetadata (chars : List Char) : Option String :=
  match chars with
  | [] => some ""
  | '+' :: rest => (identifiers? rest).map fun _ => String.ofList rest
  | _ => none

def parse? (text : String) : Option Version := do
  let chars := match text.toList with
    | 'v' :: rest => rest
    | chars => chars
  let (digits, rest) := chars.span Char.isDigit
  let major ← number? digits
  let (minor, rest) ← readPart rest
  let (patch, rest) ← readPart rest
  let (preRelease, rest) ← readPreRelease rest
  let metadata ← readMetadata rest
  return { major, minor, patch, preRelease, metadata, original := text }

/-- Precedence of two pre-release identifiers: numbers by value and before words. -/
def compareIdentifiers (left right : String) : Ordering :=
  if left == right then .eq
  else match number? left.toList, number? right.toList with
    | some x, some y => if x > y then .gt else .lt
    | some _, none => .lt
    | none, some _ => .gt
    | none, none => if left > right then .gt else .lt

/-- Precedence of two pre-releases: the first difference decides, then the length. -/
def comparePreReleases : List String → List String → Ordering
  | [], [] => .eq
  | [], _ :: _ => .lt
  | _ :: _, [] => .gt
  | left :: lefts, right :: rights =>
    match compareIdentifiers left right with
    | .eq => comparePreReleases lefts rights
    | decided => decided

/-- Precedence of two versions: a release comes after its pre-releases. -/
def precedence (left right : Version) : Ordering :=
  ((compare left.major right.major).then (compare left.minor right.minor)).then
    ((compare left.patch right.patch).then
      (match left.preRelease, right.preRelease with
      | [], [] => .eq
      | [], _ => .gt
      | _, [] => .lt
      | lefts, rights => comparePreReleases lefts rights))

def sort (versions : List Version) : List Version :=
  versions.mergeSort fun left right => precedence left right != .gt

/-- The version after this one: the release of a pre-release, else the next patch. -/
def nextPatch (version : Version) : Version :=
  let next := { version with
    preRelease := []
    metadata := ""
    patch := if version.preRelease.isEmpty then (version.patch + 1) % limit else version.patch }
  { next with original := (if version.original.startsWith "v" then "v" else "") ++ next.text }

def initial : Version := { major := 1, minor := 0, patch := 0, original := "1.0.0" }

end Version

end ShapeForge
