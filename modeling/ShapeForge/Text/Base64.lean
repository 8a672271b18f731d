/-!
# Base 64

The bytes of a text in groups of three, each written as four digits of six bits.
-/

namespace ShapeForge.Text

def base64Digit (value : Nat) : Char :=
  if value < 26 then Char.ofNat ('A'.toNat + value)
  else if value < 52 then Char.ofNat ('a'.toNat + (value - 26))
  else if value < 62 then Char.ofNat ('0'.toNat + (value - 52))
  else if value == 62 then '+'
  else '/'

/-- The digits of bytes; a last group of less than three is padded. -/
def base64Digits : List UInt8 → List Char
  | a :: b :: c :: rest =>
    let bits := a.toNat * 65536 + b.toNat * 256 + c.toNat
    base64Digit (bits / 262144) :: base64Digit (bits / 4096 % 64) ::
      base64Digit (bits / 64 % 64) :: base64Digit (bits % 64) :: base64Digits rest
  | [a, b] =>
    let bits := a.toNat * 65536 + b.toNat * 256
    [base64Digit (bits / 262144), base64Digit (bits / 4096 % 64),
      base64Digit (bits / 64 % 64), '=']
  | [a] =>
    let bits := a.toNat * 65536
    [base64Digit (bits / 262144), base64Digit (bits / 4096 % 64), '=', '=']
  | [] => []

def base64 (text : String) : String :=
  String.ofList (base64Digits text.toUTF8.toList)

end ShapeForge.Text
