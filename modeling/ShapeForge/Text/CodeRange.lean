/-!
# Ranges of code points

Character properties beyond ASCII are given by the lengths of runs of code points, and case
mappings by tables of ranges that share one offset.
-/

namespace ShapeForge.Text

/-- Whether a code point lies inside of the property.  Runs outside and inside of it take turns,
from the code point 0 on, which is outside. -/
def inRuns (runs : List Nat) (code : Nat) : Bool :=
  go false runs code
where
  go (inside : Bool) : List Nat → Nat → Bool
    | [], _ => false
    | length :: rest, code =>
      if code < length then inside else go (!inside) rest (code - length)

/-- Code points `first, first + step, … , last` that all map to themselves plus `offset`. -/
structure OffsetRange where
  first : Nat
  last : Nat
  step : Nat
  offset : Int

namespace OffsetRange

def covers (range : OffsetRange) (code : Nat) : Bool :=
  range.first ≤ code && code ≤ range.last && (code - range.first) % range.step == 0

def inverse (range : OffsetRange) : OffsetRange where
  first := (range.first + range.offset).toNat
  last := (range.last + range.offset).toNat
  step := range.step
  offset := -range.offset

end OffsetRange

/-- The image of a character under the first range that covers it, if there is one. -/
def shift? (ranges : Array OffsetRange) (c : Char) : Option Char :=
  (ranges.find? fun range => range.covers c.toNat).map fun range =>
    Char.ofNat (Int.toNat ((c.toNat : Int) + range.offset))

end ShapeForge.Text
