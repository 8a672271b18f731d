import ShapeForge.Word

/-!
# Pseudo-random numbers

A permuted congruential generator on 128 bits.  A draw advances the state linearly and mixes its
high half by shifts and multiplications; `Random.below` takes a bounded number from the high bits
of a product and draws again where that would favour small numbers.
-/

namespace ShapeForge

/-- The state of the generator, below two to the 128. -/
structure Random where
  state : Nat
  deriving Repr, DecidableEq, Inhabited

namespace Random

def multiplier : Nat := 2549297995355413924 * Word.count + 4865540595714422341
def increment : Nat := 6364136223846793005 * Word.count + 1442695040888963407

def seeded (high low : Nat) : Random :=
  ⟨high % Word.count * Word.count + low % Word.count⟩

def next (random : Random) : Nat × Random :=
  let state := (random.state * multiplier + increment) % (Word.count * Word.count)
  let high := state / Word.count
  let low := state % Word.count
  let high := high ^^^ (high / 4294967296)
  let high := high * 0xda942042e4dd58b5 % Word.count
  let high := high ^^^ (high / 281474976710656)
  let high := high * (low ||| 1) % Word.count
  (high, ⟨state⟩)

/-- Draw until the low word of the product is at least a threshold. -/
def redraw (bound threshold : Nat) : Nat → Nat × Random → Nat × Random
  | 0, (drawn, random) => (drawn * bound / Word.count, random)
  | fuel + 1, (drawn, random) =>
    if drawn * bound % Word.count < threshold then redraw bound threshold fuel random.next
    else (drawn * bound / Word.count, random)

def maxDraws : Nat := 4096

def below (bound : Nat) (random : Random) : Nat × Random :=
  let (drawn, after) := random.next
  if bound &&& (bound - 1) == 0 then (drawn &&& (bound - 1), after)
  else redraw bound (Word.count % bound) maxDraws (drawn, after)

/-- The hash of a text: the bytes are mixed in one by one. -/
def hash (text : String) : Nat :=
  text.toUTF8.toList.foldl
    (fun hash byte => (hash ^^^ byte.toNat) * 1099511628211 % Word.count) 14695981039346656037

end Random

end ShapeForge
