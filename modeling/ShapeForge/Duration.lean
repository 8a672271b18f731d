import ShapeForge.Word

/-!
# Durations

Lengths of time in nanoseconds, written with units.
-/

namespace ShapeForge

/-- A length of time in nanoseconds. -/
structure Duration where
  nanoseconds : Int
  deriving Repr, DecidableEq, Inhabited

namespace Duration

def microsecond : Nat := 1000
def millisecond : Nat := 1000000
def second : Nat := 1000000000
def minute : Nat := 60 * second
def hour : Nat := 60 * minute

def unit? : String → Option Nat
  | "ns" => some 1
  | "us" => some microsecond
  | "µs" => some microsecond
  | "μs" => some microsecond
  | "ms" => some millisecond
  | "s" => some second
  | "m" => some minute
  | "h" => some hour
  | _ => none

def digitsValue (digits : List Char) : Nat :=
  digits.foldl (fun value c => value * 10 + (c.toNat - '0'.toNat)) 0

def sum? : Nat → Nat → List Char → Option Nat
  | 0, _, _ => none
  | _ + 1, total, [] => some total
  | fuel + 1, total, chars =>
    let (whole, rest) := chars.span Char.isDigit
    let (fraction, rest) := match rest with
      | '.' :: rest => rest.span Char.isDigit
      | rest => ([], rest)
    let (name, rest) := rest.span fun c => c != '.' && !c.isDigit
    if whole.isEmpty && fraction.isEmpty then none
    else match unit? (String.ofList name) with
      | none => none
      | some unit =>
        let part := digitsValue whole * unit +
          digitsValue fraction * unit / Nat.pow 10 fraction.length
        if Word.signedCount < total + part then none else sum? fuel (total + part) rest

def parse? (text : String) : Option Duration :=
  let (negative, chars) := match text.toList with
    | '-' :: rest => (true, rest)
    | '+' :: rest => (false, rest)
    | chars => (false, chars)
  if chars == ['0'] then some ⟨0⟩
  else if chars.isEmpty then none
  else (sum? (chars.length + 1) 0 chars).bind fun total =>
    if negative then some ⟨-(total : Int)⟩
    else if total < Word.signedCount then some ⟨total⟩
    else none

/-- A number of parts of a unit with its fraction, without zeros at the end. -/
def withFraction (value unit : Nat) : String :=
  let places := (toString unit).length - 1
  let digits := toString (value % unit)
  let padded := List.replicate (places - digits.length) '0' ++ digits.toList
  let fraction := (padded.reverse.dropWhile (· == '0')).reverse
  toString (value / unit) ++ (if fraction.isEmpty then "" else "." ++ String.ofList fraction)

def text (duration : Duration) : String :=
  let value := duration.nanoseconds.natAbs
  let sign := if duration.nanoseconds < 0 then "-" else ""
  sign ++
    if value == 0 then "0s"
    else if value < microsecond then toString value ++ "ns"
    else if value < millisecond then withFraction value microsecond ++ "µs"
    else if value < second then withFraction value millisecond ++ "ms"
    else
      (if hour ≤ value then toString (value / hour) ++ "h" else "") ++
      (if minute ≤ value then toString (value % hour / minute) ++ "m" else "") ++
      withFraction (value % minute) second ++ "s"

end Duration

end ShapeForge
