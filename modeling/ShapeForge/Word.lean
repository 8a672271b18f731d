/-!
# Words

Whole numbers of 64 bits, with and without a sign.
-/

namespace ShapeForge.Word

def count : Nat := 18446744073709551616

/-- The first number too large for a word with a sign. -/
def signedCount : Nat := 9223372036854775808

def fits (value : Nat) : Bool :=
  value < count

def fitsSigned (value : Int) : Bool :=
  -(signedCount : Int) ≤ value && value < signedCount

/-- Whether a number is a word, with or without a sign. -/
def fitsEither (value : Int) : Bool :=
  -(signedCount : Int) ≤ value && value < count

end ShapeForge.Word
