import ShapeForge.Text.Blank

/-!
# Request targets

The target of a request is a path with an optional query.  Characters may be written by their
codes behind percent signs.
-/

namespace ShapeForge.Server

/-- Text as bytes, which need not be characters. -/
abbrev Bytes := List UInt8

def bytesOf (text : String) : Bytes :=
  text.toUTF8.toList

instance : Coe String Bytes := ⟨bytesOf⟩

def leadingChar? (bytes : Bytes) : Option (Char × Nat) :=
  [1, 2, 3, 4].findSome? fun size => do
    let text ← String.fromUTF8? ⟨(bytes.take size).toArray⟩
    match text.toList with
    | [c] => some (c, size)
    | _ => none

/-- The characters of bytes behind some that are skipped; each byte that starts no character
becomes a replacement character. -/
def charsOf : Nat → Bytes → List Char
  | _, [] => []
  | skipped + 1, _ :: rest => charsOf skipped rest
  | 0, b :: rest =>
    match leadingChar? (b :: rest) with
    | some (c, size) => c :: charsOf (size - 1) rest
    | none => Char.ofNat 0xFFFD :: charsOf 0 rest

def textOf (bytes : Bytes) : String :=
  (String.fromUTF8? ⟨bytes.toArray⟩).getD (String.ofList (charsOf 0 bytes))

def byte (c : Char) : UInt8 :=
  c.toNat.toUInt8

def hexDigit? (b : UInt8) : Option UInt8 :=
  if byte '0' ≤ b && b ≤ byte '9' then some (b - byte '0')
  else if byte 'a' ≤ b && b ≤ byte 'f' then some (b - byte 'a' + 10)
  else if byte 'A' ≤ b && b ≤ byte 'F' then some (b - byte 'A' + 10)
  else none

/-- Decode percent signs, and plus signs as blanks where `plus`. -/
def decode? (plus : Bool) : Bytes → Option Bytes
  | [] => some []
  | b :: rest =>
    if b == byte '%' then
      match rest with
      | high :: low :: after => do
        let high ← hexDigit? high
        let low ← hexDigit? low
        return (high * 16 + low) :: (← decode? plus after)
      | _ => none
    else (decode? plus rest).map ((if plus && b == byte '+' then byte ' ' else b) :: ·)

def isPlain (b : UInt8) : Bool :=
  b < 128 && (Char.ofNat b.toNat).isAlphanum ||
    (bytesOf "-_.~$&+,/:;=@").contains b

def hexCapital (value : UInt8) : UInt8 :=
  if value < 10 then byte '0' + value else byte 'A' + (value - 10)

def encodePath : Bytes → Bytes
  | [] => []
  | b :: rest =>
    if isPlain b then b :: encodePath rest
    else byte '%' :: hexCapital (b / 16) :: hexCapital (b % 16) :: encodePath rest

structure Target where
  path : Bytes
  /-- The path as it is routed: as written, where decoding and encoding it changes it. -/
  routed : Bytes
  query : List (Bytes × Bytes)
  deriving Repr, Inhabited

def parameter? (part : Bytes) : Option (Bytes × Bytes) :=
  if part.isEmpty || part.contains (byte ';') then none
  else do
    let (name, value) := part.span (· != byte '=')
    return (← decode? true name, ← decode? true (value.drop 1))

def parameters (query : Bytes) : List (Bytes × Bytes) :=
  (Text.splitWhere (· == byte '&') query).filterMap parameter?

def isControl (b : UInt8) : Bool :=
  b < 32 || b == 127

namespace Target

def parse? (text : String) : Option Target := do
  let bytes := bytesOf text
  if bytes.any isControl then none
  let (target, fragment) := bytes.span (· != byte '#')
  let _ ← decode? false (fragment.drop 1)
  let (written, query) := target.span (· != byte '?')
  let path ← decode? false written
  return {
    path
    routed := if encodePath path == written then path else written
    query := parameters (query.drop 1) }

def parameter? (target : Target) (name : String) : Option Bytes :=
  (target.query.find? (·.1 == bytesOf name)).map (·.2)

end Target

end ShapeForge.Server
