import ShapeForge.Word
import ShapeForge.Decimal.Basic

/-!
# The shortest decimal of a binary number

A double-precision number is `m * 2 ^ q`.  Its decimal is the one with the fewest digits that
rounds to it, and of several the nearest.  Everything is computed in natural numbers.
-/

namespace ShapeForge.Decimal

structure Ratio where
  numerator : Nat
  denominator : Nat
  deriving Repr

def Ratio.binary (m : Nat) : Int → Ratio
  | .ofNat q => ⟨m * Nat.pow 2 q, 1⟩
  | .negSucc q => ⟨m, Nat.pow 2 (q + 1)⟩

def Ratio.overTen (ratio : Ratio) : Int → Ratio
  | .ofNat e => ⟨ratio.numerator, ratio.denominator * Nat.pow 10 e⟩
  | .negSucc e => ⟨ratio.numerator * Nat.pow 10 (e + 1), ratio.denominator⟩

def Ratio.reaches (ratio : Ratio) (power : Int) : Bool :=
  let scaled := ratio.overTen power
  scaled.denominator ≤ scaled.numerator

/-- The power of ten of the leading digit, searched upwards from a lower bound. -/
def leadingPower (ratio : Ratio) : Nat → Int → Int
  | 0, power => power
  | fuel + 1, power =>
    if ratio.reaches (power + 1) then leadingPower ratio fuel (power + 1) else power

/-- The numbers that round to the same binary number: four times the bounds of `m`. -/
structure Interval where
  low : Nat
  high : Nat
  closed : Bool

/-- Whether a decimal lies in an interval whose unit is a quarter of two to `q`. -/
def Interval.contains (interval : Interval) (q : Int) (digits : Nat) (exponent : Int) : Bool :=
  let low := (Ratio.binary interval.low (q - 2)).overTen exponent
  let high := (Ratio.binary interval.high (q - 2)).overTen exponent
  if interval.closed then
    low.numerator ≤ digits * low.denominator && digits * high.denominator ≤ high.numerator
  else low.numerator < digits * low.denominator && digits * high.denominator < high.numerator

/-- The decimal with `count` digits that rounds to the number, if there is one. -/
def withDigits? (interval : Interval) (m : Nat) (q : Int) (power : Int) (count : Nat) :
    Option (Nat × Int) :=
  let exponent := power - count + 1
  let scaled := (Ratio.binary m q).overTen exponent
  let below := scaled.numerator / scaled.denominator
  let above := below + 1
  let belowFits := interval.contains q below exponent
  let aboveFits := interval.contains q above exponent
  let twice := 2 * (scaled.numerator % scaled.denominator)
  if belowFits && aboveFits then
    if twice < scaled.denominator || (twice == scaled.denominator && below % 2 == 0) then
      some (below, exponent)
    else some (above, exponent)
  else if belowFits then some (below, exponent)
  else if aboveFits then some (above, exponent)
  else none

/-- The first number of digits with which a decimal rounds to the number. -/
def searchDigits (interval : Interval) (m : Nat) (q : Int) (power : Int) :
    Nat → Nat → Nat × Int
  | 0, count => ((withDigits? interval m q power count).getD (0, 0))
  | fuel + 1, count =>
    match withDigits? interval m q power count with
    | some found => found
    | none => searchDigits interval m q power fuel (count + 1)

/-- How many significands of double precision share a power of two. -/
def significands : Nat := 4503599627370496

/-- The shortest decimal of a positive number `m * 2 ^ q`. -/
def shortest (m : Nat) (q : Int) : Nat × Int :=
  let boundary := m == significands && decide (q > -1074)
  let interval : Interval :=
    { low := if boundary then 4 * m - 1 else 4 * m - 2
      high := 4 * m + 2
      closed := m % 2 == 0 }
  searchDigits interval m q (leadingPower (Ratio.binary m q) 700 (-345)) 17 1

def ofFloat (value : Float) : Decimal :=
  let bits := value.toBits.toNat
  let negative := bits / Word.signedCount == 1
  let power : Nat := bits / significands % 2048
  let fraction := bits % significands
  if power == 2047 then (if fraction == 0 then .infinite negative else .undefined)
  else if power == 0 && fraction == 0 then .finite negative 0 0
  else
    let (coefficient, exponent) :=
      if power == 0 then shortest fraction (-1074)
      else shortest (significands + fraction) ((power : Int) - 1075)
    normalize (.finite negative coefficient exponent)

def literal? (text : String) : Option Decimal :=
  let (negative, chars) := match text.toList with
    | '-' :: rest => (true, rest)
    | '+' :: rest => (false, rest)
    | rest => (false, rest)
  let (whole, rest) := chars.span Char.isDigit
  let (fraction, rest) := match rest with
    | '.' :: rest => rest.span Char.isDigit
    | _ => ([], rest)
  let value (digits : List Char) :=
    digits.foldl (fun value c => value * 10 + (c.toNat - '0'.toNat)) 0
  let finish (exponent : Int) : Option Decimal :=
    if whole.isEmpty && fraction.isEmpty then none
    else some (.finite negative (value (whole ++ fraction)) (exponent - fraction.length))
  let exponentOf (minus : Bool) (digits : List Char) : Option Decimal :=
    if digits.isEmpty || !digits.all Char.isDigit then none
    else
      let magnitude : Int := min (value digits) 100000
      finish (if minus then -magnitude else magnitude)
  match rest with
  | [] => finish 0
  | mark :: rest =>
    if mark == 'e' || mark == 'E' then
      match rest with
      | '-' :: digits => exponentOf true digits
      | '+' :: digits => exponentOf false digits
      | digits => exponentOf false digits
    else none

def toFloat : Decimal → Float
  | .finite negative coefficient exponent =>
    let size : Int := (toString coefficient).length + exponent
    let magnitude : Float :=
      if coefficient == 0 || size < -330 then 0.0
      else if size > 310 then 1.0 / 0.0
      else match exponent with
        | .ofNat e => Float.ofScientific coefficient false e
        | .negSucc e => Float.ofScientific coefficient true (e + 1)
    if negative then -magnitude else magnitude
  | .infinite negative => if negative then -1.0 / 0.0 else 1.0 / 0.0
  | .undefined => 0.0 / 0.0

/-- The decimal that is left of a literal when it is kept in double precision. -/
def rounded? (text : String) : Option Decimal :=
  (literal? text).map fun decimal => ofFloat decimal.toFloat

end ShapeForge.Decimal
