/-!
# JSON values

A JSON value keeps what its text says: the members of an object stand in their order, a repeated
key is kept, and a number is its literal.  Look-ups follow the usual convention that the last of
several equal keys counts.
-/

namespace ShapeForge

inductive Json where
  | null
  | bool (value : Bool)
  | number (literal : String)
  | string (text : String)
  | array (items : List Json)
  | object (fields : List (String × Json))
  deriving Repr, Inhabited, BEq

namespace Json

def lookup (key : String) (fields : List (String × Json)) : Option Json :=
  (fields.reverse.find? (·.1 == key)).map (·.2)

def get? (key : String) : Json → Option Json
  | .object fields => lookup key fields
  | _ => none

def isNull : Json → Bool
  | .null => true
  | _ => false

def int (value : Int) : Json :=
  .number (toString value)

def nat (value : Nat) : Json :=
  .number (toString value)

def strings (texts : List String) : Json :=
  .array (texts.map .string)

def optString : Option String → Json
  | some text => .string text
  | none => .null

mutual

def depth : Json → Nat
  | .array items => depthItems items + 1
  | .object fields => depthFields fields + 1
  | _ => 0

def depthItems : List Json → Nat
  | [] => 0
  | item :: rest => max (depth item) (depthItems rest)

def depthFields : List (String × Json) → Nat
  | [] => 0
  | (_, value) :: rest => max (depth value) (depthFields rest)

end

/-- Set a member: replace the value where the key first stands, or add it at the end. -/
def insertField (key : String) (value : Json) : List (String × Json) → List (String × Json)
  | [] => [(key, value)]
  | (other, old) :: rest =>
    if other == key then (key, value) :: rest else (other, old) :: insertField key value rest

mutual

/-- The value with the members of every object sorted by key and only the last of equal keys
kept. -/
def canonical : Json → Json
  | .array items => .array (canonicalItems items)
  | .object fields =>
    .object (((canonicalFields fields).foldl (fun kept (key, value) => insertField key value kept)
      []).mergeSort fun left right => left.1 ≤ right.1)
  | value => value

def canonicalItems : List Json → List Json
  | [] => []
  | item :: rest => canonical item :: canonicalItems rest

def canonicalFields : List (String × Json) → List (String × Json)
  | [] => []
  | (key, value) :: rest => (key, canonical value) :: canonicalFields rest

end

end Json

end ShapeForge
