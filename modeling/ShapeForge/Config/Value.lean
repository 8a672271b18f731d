import ShapeForge.Decimal.Basic
import ShapeForge.Numeral
import ShapeForge.Text.Casing

/-!
# Configuration values

The values that configuration files, variables and flags hold, and how they are read as what an
option needs.  Reading is lenient: texts are read as numbers and truth values, numbers as texts,
and a single value as a list.
-/

namespace ShapeForge

inductive ConfigValue where
  | null
  | bool (value : Bool)
  | int (value : Int)
  | number (value : Decimal)
  | text (value : String)
  | moment
  | list (items : List ConfigValue)
  | table (fields : List (String × ConfigValue))
  deriving Repr, Inhabited

namespace ConfigValue

def get? (key : String) : ConfigValue → Option ConfigValue
  | .table fields => (fields.find? (·.1 == key)).map (·.2)
  | _ => none

mutual

def lower : ConfigValue → ConfigValue
  | .list items => .list (lowerItems items)
  | .table fields => .table (lowerFields fields)
  | value => value

def lowerItems : List ConfigValue → List ConfigValue
  | [] => []
  | item :: rest => lower item :: lowerItems rest

def lowerFields : List (String × ConfigValue) → List (String × ConfigValue)
  | [] => []
  | (key, value) :: rest => (Text.lower key, lower value) :: lowerFields rest

end

def whole : Decimal → Int
  | .finite negative coefficient exponent =>
    let magnitude : Int := match exponent with
      | .ofNat count => (coefficient * Nat.pow 10 (min count 400) : Nat)
      | .negSucc count => (coefficient / Nat.pow 10 (min (count + 1) 400) : Nat)
    if negative then -magnitude else magnitude
  | _ => 0

def truth? (word : String) : Option Bool :=
  if ["1", "t", "T", "TRUE", "true", "True"].contains word then some true
  else if ["0", "f", "F", "FALSE", "false", "False"].contains word then some false
  else none

def asText? : ConfigValue → Option String
  | .null => some ""
  | .text value => some value
  | .bool value => some (if value then "1" else "0")
  | .int value => some (toString value)
  | .number value => some value.plain
  | _ => none

def asInt? : ConfigValue → Option Int
  | .null => some 0
  | .int value => some (Int.bmod value Word.count)
  | .number value => some (Int.bmod (whole value) Word.count)
  | .bool value => some (if value then 1 else 0)
  | .text value => if value.isEmpty then some 0 else Numeral.int64? value
  | _ => none

def asWord? : ConfigValue → Option Nat
  | .null => some 0
  | .int value => some (value % Word.count).toNat
  | .number value => some (whole value % Word.count).toNat
  | .bool value => some (if value then 1 else 0)
  | .text value => if value.isEmpty then some 0 else Numeral.nat64? value
  | _ => none

def asBool? : ConfigValue → Option Bool
  | .null => some false
  | .bool value => some value
  | .int value => some (value != 0)
  | .number (.finite _ coefficient _) => some (coefficient != 0)
  | .number _ => some true
  | .text value => if value.isEmpty then some false else truth? value
  | _ => none

/-- A value as a list: the words of a text between commas, nothing for an empty table, and one
item for anything else. -/
def asList : ConfigValue → List ConfigValue
  | .null => []
  | .list items => items
  | .text value => if value.isEmpty then [] else (value.splitOn ",").map .text
  | .table [] => []
  | value => [value]

end ConfigValue

end ShapeForge
