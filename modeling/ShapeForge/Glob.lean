import ShapeForge.Fault
import ShapeForge.Text.Casing

/-!
# Globs

Patterns for names: a star stands for any characters but a slash, a question mark for one such
character, and a class in brackets for one of its characters.  A backslash keeps the next
character.  Names are matched byte by byte.
-/

namespace ShapeForge.Glob

inductive Malformed where
  | malformed
  deriving DecidableEq, Repr

def bytesOf (text : String) : List UInt8 :=
  text.toUTF8.toList

def slash : UInt8 := 47
def star : UInt8 := 42
def question : UInt8 := 63
def backslash : UInt8 := 92
def opening : UInt8 := 91
def closing : UInt8 := 93
def hyphen : UInt8 := 45
def caret : UInt8 := 94

def isContinuation (byte : UInt8) : Bool :=
  0x80 ≤ byte && byte < 0xC0

def low (byte : UInt8) : Nat :=
  byte.toNat % 64

def replacement : Nat := 0xFFFD

def character? : List UInt8 → Option (Nat × List UInt8)
  | [] => none
  | a :: rest =>
    if a < 0x80 then some (a.toNat, rest)
    else some (match rest with
      | b :: after =>
        if 0xC2 ≤ a && a < 0xE0 && isContinuation b then
          (a.toNat % 32 * 64 + low b, after)
        else match after with
          | c :: after =>
            let three := a.toNat % 16 * 4096 + low b * 64 + low c
            if 0xE0 ≤ a && a < 0xF0 && isContinuation b && isContinuation c &&
                0x800 ≤ three && !(0xD800 ≤ three && three < 0xE000) then (three, after)
            else match after with
              | d :: after =>
                let four := a.toNat % 8 * 262144 + low b * 4096 + low c * 64 + low d
                if 0xF0 ≤ a && a < 0xF5 && isContinuation b && isContinuation c &&
                    isContinuation d && 0x10000 ≤ four && four < 0x110000 then (four, after)
                else (replacement, rest)
              | [] => (replacement, rest)
          | [] => (replacement, rest)
      | [] => (replacement, rest))

/-- A character of a class, which must not end the pattern. -/
def classCharacter (pattern : List UInt8) : Except Malformed (Nat × List UInt8) :=
  match pattern with
  | [] => .error .malformed
  | first :: rest =>
    if first == hyphen || first == closing then .error .malformed
    else match character? (if first == backslash then rest else pattern) with
      | some (character, after) =>
        if after.isEmpty then .error .malformed else .ok (character, after)
      | none => .error .malformed

def readClass (ranges : List (Nat × Nat)) :
    Nat → List UInt8 → Except Malformed (List (Nat × Nat) × List UInt8)
  | 0, _ => .error .malformed
  | fuel + 1, pattern =>
    if pattern.head? == some closing && !ranges.isEmpty then .ok (ranges, pattern.drop 1)
    else do
      let (lower, rest) ← classCharacter pattern
      let (upper, rest) ←
        if rest.head? == some hyphen then classCharacter (rest.drop 1) else pure (lower, rest)
      readClass (ranges ++ [(lower, upper)]) fuel rest

/-- What follows a part of a pattern without stars in a name.  Once a part has failed, the rest
of the pattern is still read. -/
def matchPart : Nat → List UInt8 → Option (List UInt8) → Except Malformed (Option (List UInt8))
  | 0, _, name => .ok name
  | _ + 1, [], name => .ok name
  | fuel + 1, first :: rest, name =>
    let name := name.filter (!·.isEmpty)
    if first == opening then do
      let negated := rest.head? == some caret
      let body := if negated then rest.drop 1 else rest
      let (ranges, after) ← readClass [] (body.length + 1) body
      matchPart fuel after (name.bind fun name =>
        match character? name with
        | some (character, left) =>
          let inside := ranges.any fun (lower, upper) =>
            lower ≤ character && character ≤ upper
          if inside == negated then none else some left
        | none => none)
    else if first == question then
      matchPart fuel rest (name.bind fun name =>
        if name.head? == some slash then none else (character? name).map (·.2))
    else if first == backslash then
      match rest with
      | [] => .error .malformed
      | kept :: after => matchPart fuel after (dropByte kept name)
    else matchPart fuel rest (dropByte first name)
where
  dropByte (byte : UInt8) (name : Option (List UInt8)) : Option (List UInt8) :=
    name.bind fun name => if name.head? == some byte then some name.tail else none

/-- The part of a pattern up to its first star, which no class holds. -/
def splitPart (inClass : Bool) : List UInt8 → List UInt8 × List UInt8
  | [] => ([], [])
  | byte :: rest =>
    if byte == star && !inClass then ([], byte :: rest)
    else if byte == backslash then
      match rest with
      | kept :: after =>
        let (part, more) := splitPart inClass after
        (byte :: kept :: part, more)
      | [] => ([byte], [])
    else
      let (part, more) := splitPart
        (if byte == opening then true else if byte == closing then false else inClass) rest
      (byte :: part, more)

/-- The name behind the first place that a part matches, where a last part must end the name.  No
slash may be skipped. -/
def findPart (part : List UInt8) (isLast : Bool) : List UInt8 →
    Except Malformed (Option (List UInt8))
  | [] => .ok none
  | byte :: rest =>
    if byte == slash then .ok none
    else do
      match ← matchPart (part.length + 1) part (some rest) with
      | some left =>
        if isLast && !left.isEmpty then findPart part isLast rest else return some left
      | none => findPart part isLast rest

def checkRest : Nat → List UInt8 → Except Malformed Unit
  | 0, _ => .ok ()
  | _ + 1, [] => .ok ()
  | fuel + 1, pattern => do
    let (part, more) := splitPart false (pattern.dropWhile (· == star))
    let _ ← matchPart (part.length + 1) part (some [])
    checkRest fuel more

def matchFrom : Nat → List UInt8 → List UInt8 → Except Malformed Bool
  | 0, _, _ => .ok false
  | _ + 1, [], name => .ok name.isEmpty
  | fuel + 1, pattern, name => do
    let starred := pattern.head? == some star
    let (part, more) := splitPart false (pattern.dropWhile (· == star))
    if starred && part.isEmpty then return !name.contains slash
    let here ← matchPart (part.length + 1) part (some name)
    match here.filter fun left => left.isEmpty || !more.isEmpty with
    | some left => matchFrom fuel more left
    | none =>
      let found ← if starred then findPart part more.isEmpty name else pure none
      match found with
      | some left => matchFrom fuel more left
      | none =>
        checkRest fuel more
        return false

def matches? (pattern name : String) : Except Malformed Bool :=
  let bytes := bytesOf pattern
  matchFrom (bytes.length + 1) bytes (bytesOf name)

def isPattern (text : String) : Bool :=
  text.toList.any fun c => c == '*' || c == '?' || c == '['

def check (text : String) : Except Fault Unit :=
  if !isPattern text then .ok ()
  else match matches? text "" with
    | .ok _ => .ok ()
    | .error _ => .error (.context ("invalid glob pattern " ++ Text.quote text)
        (.plain "syntax error in pattern"))

/-- Whether a name is meant by a text: by a pattern that it matches, by the same name in any
case, or by nothing, which means all names. -/
def selects (text name : String) : Bool :=
  if text.isEmpty then true
  else if !isPattern text then Text.equalFold name text
  else match matches? text name with
    | .ok matched => matched
    | .error _ => false

end ShapeForge.Glob
