import ShapeForge.Numeral

/-!
# Plain scalars

A scalar without quotes and without tag is given a tag by its spelling: a null, a truth value, a
whole number, a number with a fraction, or else a string.
-/

namespace ShapeForge.Yaml

open ShapeForge.Numeral

/-- The tags that scalars receive from their spelling. -/
inductive CoreTag where
  | null
  | bool
  | int
  | float
  | merge
  | str
  deriving BEq, DecidableEq, Repr

namespace CoreTag

def name : CoreTag → String
  | .null => "!!null"
  | .bool => "!!bool"
  | .int => "!!int"
  | .float => "!!float"
  | .merge => "!!merge"
  | .str => "!!str"

end CoreTag

/-- A decimal number in parts: negative, whole digits, digits after the point, exponent. -/
structure DecimalParts where
  negative : Bool
  whole : List Char
  fraction : List Char
  exponent : Int

def exponent? : List Char → Option Int
  | [] => some 0
  | c :: rest =>
    if c == 'e' || c == 'E' then
      let (negative, digits) := match rest with
        | '-' :: digits => (true, digits)
        | '+' :: digits => (false, digits)
        | digits => (false, digits)
      if digits.isEmpty || !digits.all Char.isDigit then none
      else (digitsValue? 10 digits).map fun value =>
        if negative then -(value : Int) else (value : Int)
    else none

/-- The parts of a decimal number: at least one digit before or after the point. -/
def decimalParts? (chars : List Char) : Option DecimalParts :=
  let (negative, unsigned) := match chars with
    | '-' :: rest => (true, rest)
    | '+' :: rest => (false, rest)
    | rest => (false, rest)
  let (whole, rest) := unsigned.span Char.isDigit
  let (fraction, rest) := match rest with
    | '.' :: rest => rest.span Char.isDigit
    | rest => ([], rest)
  if whole.isEmpty && fraction.isEmpty then none
  else (exponent? rest).map fun exponent => { negative, whole, fraction, exponent }

namespace DecimalParts

def digits (parts : DecimalParts) : Nat :=
  (digitsValue? 10 (parts.whole ++ parts.fraction)).getD 0

def scale (parts : DecimalParts) : Int :=
  parts.exponent - parts.fraction.length

/-- The magnitude rounds to a finite double: it lies below the midpoint between the largest one
and the next power of two. -/
def isFinite (parts : DecimalParts) : Bool :=
  let limit := (Nat.pow 2 54 - 1) * Nat.pow 2 970
  if parts.digits == 0 then true
  else if parts.scale > 400 then false
  else if parts.scale ≥ 0 then parts.digits * Nat.pow 10 parts.scale.toNat < limit
  else if (-parts.scale).toNat > 400 + parts.whole.length + parts.fraction.length then true
  else parts.digits < limit * Nat.pow 10 (-parts.scale).toNat

end DecimalParts

def isFiniteDecimal (chars : List Char) : Bool :=
  (decimalParts? chars).any DecimalParts.isFinite

def listedTag? (text : String) : Option CoreTag :=
  if ["true", "True", "TRUE", "false", "False", "FALSE"].contains text then some .bool
  else if ["", "~", "null", "Null", "NULL"].contains text then some .null
  else if [".nan", ".NaN", ".NAN", ".inf", ".Inf", ".INF", "+.inf", "+.Inf", "+.INF",
      "-.inf", "-.Inf", "-.INF"].contains text then some .float
  else if text == "<<" then some .merge
  else none

/-- A whole number in one of the notations of a scalar, with underscores already removed. -/
def isWhole (chars : List Char) : Bool :=
  (intLiteral? chars).any Word.fitsEither

def numberTag (chars : List Char) : CoreTag :=
  let plain := chars.filter (· != '_')
  let beyondSigned := (intLiteral? plain).any (!Word.fitsSigned ·)
  if isWhole plain && !(plain.head? == some '+' && beyondSigned) then .int
  else if isFiniteDecimal plain then .float
  else .str

def coreTag (text : String) : CoreTag :=
  match text.toList with
  | [] => .null
  | c :: rest =>
    let chars := c :: rest
    if c == '+' || c == '-' || c.isDigit then (listedTag? text).getD (numberTag chars)
    else if c == '.' then
      (listedTag? text).getD (if isFiniteDecimal chars then .float else .str)
    else if "yYnNtTfFoO~".toList.contains c then (listedTag? text).getD .str
    else .str

end ShapeForge.Yaml
