/-!
# Decimal numbers

A finite number is a coefficient scaled by a power of ten, with its sign kept also for zero.
`Decimal.plain` writes it positionally; `Decimal.scientific` writes very large and very small
ones with an exponent.
-/

namespace ShapeForge

inductive Decimal where
  /-- The coefficient times ten to the exponent. -/
  | finite (negative : Bool) (coefficient : Nat) (exponent : Int)
  | infinite (negative : Bool)
  | undefined
  deriving Repr, DecidableEq, Inhabited

namespace Decimal

def trimZeros : Nat → Nat → Int → Nat × Int
  | 0, coefficient, exponent => (coefficient, exponent)
  | fuel + 1, coefficient, exponent =>
    if coefficient != 0 && coefficient % 10 == 0 then
      trimZeros fuel (coefficient / 10) (exponent + 1)
    else (coefficient, exponent)

def normalize : Decimal → Decimal
  | .finite negative coefficient exponent =>
    if coefficient == 0 then .finite negative 0 0
    else
      let (coefficient, exponent) := trimZeros coefficient.log2 coefficient exponent
      .finite negative coefficient exponent
  | other => other

def hundredths (count : Nat) : Decimal :=
  normalize (.finite false count (-2))

def sign (negative : Bool) : String :=
  if negative then "-" else ""

def zeros (count : Nat) : String :=
  String.ofList (List.replicate count '0')

/-- Digits with a point before the last `places` of them. -/
def withPoint (digits : String) (places : Nat) : String :=
  if digits.length ≤ places then "0." ++ zeros (places - digits.length) ++ digits
  else
    let whole := digits.length - places
    String.ofList (digits.toList.take whole) ++ "." ++ String.ofList (digits.toList.drop whole)

def positional (coefficient : Nat) (exponent : Int) : String :=
  let digits := toString coefficient
  match exponent with
  | .ofNat count => if coefficient == 0 then "0" else digits ++ zeros count
  | .negSucc below => withPoint digits (below + 1)

def infiniteText (negative : Bool) : String :=
  if negative then "-Inf" else "+Inf"

def plain : Decimal → String
  | .finite negative coefficient exponent => sign negative ++ positional coefficient exponent
  | .infinite negative => infiniteText negative
  | .undefined => "NaN"

/-- How numbers with an exponent are written. -/
structure Notation where
  /-- The first power of ten that is written with an exponent. -/
  high : Int
  /-- Powers of ten below this one are written with an exponent. -/
  low : Int
  /-- The least number of digits of a negative exponent. -/
  negativeWidth : Nat := 2

def exponentText (style : Notation) (exponent : Int) : String :=
  let digits := toString exponent.natAbs
  let width := if exponent < 0 then style.negativeWidth else 2
  (if exponent < 0 then "e-" else "e+") ++ zeros (width - digits.length) ++ digits

def scientific (style : Notation) : Decimal → String
  | .finite negative coefficient exponent =>
    let digits := toString coefficient
    let leading : Int := exponent + digits.length - 1
    if coefficient != 0 && (leading < style.low || style.high ≤ leading) then
      sign negative ++
        (if digits.length == 1 then digits else withPoint digits (digits.length - 1)) ++
        exponentText style leading
    else sign negative ++ positional coefficient exponent
  | .infinite negative => infiniteText negative
  | .undefined => "NaN"

def Notation.general : Notation := { high := 6, low := -4 }

def Notation.json : Notation := { high := 21, low := -6, negativeWidth := 1 }

end Decimal

end ShapeForge
