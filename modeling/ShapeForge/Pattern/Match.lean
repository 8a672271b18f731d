import ShapeForge.Pattern.Check

/-!
# Matching patterns

A pattern is read as an expression, and an expression is matched by the positions that it leads
to from given positions.
-/

namespace ShapeForge.Pattern

inductive Regex where
  | empty
  /-- A character of one of several ranges, or of none of them. -/
  | chars (negated : Bool) (ranges : List (Nat × Nat))
  | start
  | stop
  | seq (first second : Regex)
  | either (first second : Regex)
  /-- The part a number of times, without upper bound if there is none. -/
  | times (least : Nat) (most : Option Nat) (part : Regex)
  deriving Repr, Inhabited

def letterClass (c : Char) : Bool × List (Nat × Nat) :=
  let digits := [(48, 57)]
  let spaces := [(9, 10), (12, 13), (32, 32)]
  let words := [(48, 57), (65, 90), (95, 95), (97, 122)]
  match c with
  | 'd' => (false, digits)
  | 'D' => (true, digits)
  | 's' => (false, spaces)
  | 'S' => (true, spaces)
  | 'w' => (false, words)
  | _ => (true, words)

def outside (ranges : List (Nat × Nat)) : List (Nat × Nat) :=
  let sorted := ranges.mergeSort fun left right => left.1 ≤ right.1
  gaps 0 sorted
where
  gaps (low : Nat) : List (Nat × Nat) → List (Nat × Nat)
    | [] => [(low, 0x10FFFF)]
    | (first, last) :: rest =>
      (if low < first then [(low, first - 1)] else []) ++ gaps (max low (last + 1)) rest

def letterRanges (c : Char) : List (Nat × Nat) :=
  let (negated, ranges) := letterClass c
  if negated then outside ranges else ranges

def namedRanges (name : String) : List (Nat × Nat) :=
  match name with
  | "alnum" => [(48, 57), (65, 90), (97, 122)]
  | "alpha" => [(65, 90), (97, 122)]
  | "ascii" => [(0, 127)]
  | "blank" => [(9, 9), (32, 32)]
  | "cntrl" => [(0, 31), (127, 127)]
  | "digit" => [(48, 57)]
  | "graph" => [(33, 126)]
  | "lower" => [(97, 122)]
  | "print" => [(32, 126)]
  | "punct" => [(33, 47), (58, 64), (91, 96), (123, 126)]
  | "space" => [(9, 13), (32, 32)]
  | "upper" => [(65, 90)]
  | "word" => [(48, 57), (65, 90), (95, 95), (97, 122)]
  | "xdigit" => [(48, 57), (65, 70), (97, 102)]
  | _ => []

def escapedCode (code : Nat) : Nat :=
  if code == 'a'.toNat then 7
  else if code == 'f'.toNat then 12
  else if code == 'n'.toNat then 10
  else if code == 'r'.toNat then 13
  else if code == 't'.toNat then 9
  else if code == 'v'.toNat then 11
  else code

def readCode : List Char → Option (Nat × List Char)
  | [] => none
  | '\\' :: rest =>
    match readEscape ('\\' :: rest) with
    | .ok (code, after) =>
      some ((if (rest.head?.map Char.isAlpha).getD false then escapedCode code else code), after)
    | .error _ => none
  | c :: rest => some (c.toNat, rest)

def readItem (chars : List Char) : Option (List (Nat × Nat) × List Char) :=
  let named := match chars with
    | '[' :: ':' :: inside => cutClassName inside
    | _ => none
  match named with
  | some ('^' :: name, rest) => some (outside (namedRanges (String.ofList name)), rest)
  | some (name, rest) => some (namedRanges (String.ofList name), rest)
  | none =>
    if startsLetterClass chars then
      some (letterRanges ((chars.drop 1).headD 'd'), chars.drop 2)
    else do
      let (low, rest) ← readCode chars
      match rest with
      | '-' :: next :: after =>
        if next == ']' then return ([(low, low)], rest)
        let (high, rest) ← readCode (next :: after)
        return ([(low, high)], rest)
      | _ => return ([(low, low)], rest)

def readRanges : Nat → Bool → List Char → Option (List (Nat × Nat) × List Char)
  | 0, _, _ => none
  | fuel + 1, first, chars =>
    match chars, first with
    | ']' :: rest, false => some ([], rest)
    | _, _ => do
      let (ranges, rest) ← readItem chars
      let (more, rest) ← readRanges fuel false rest
      return (ranges ++ more, rest)

def readRepetition : List Char → Option ((Nat × Option Nat) × List Char)
  | '*' :: rest => some ((0, none), rest)
  | '+' :: rest => some ((1, none), rest)
  | '?' :: rest => some ((0, some 1), rest)
  | '\x7b' :: rest =>
    match readBounds rest with
    | some ((some least, none), after) => some ((least, none), after)
    | some ((some least, some (some most)), after) => some ((least, some most), after)
    | _ => none
  | _ => none

def anyChar : Regex := .chars true [(10, 10)]

mutual

def readAlternatives : Nat → List Char → Option (Regex × List Char)
  | 0, _ => none
  | fuel + 1, chars => do
    let (first, rest) ← readSequence fuel .empty chars
    match rest with
    | '|' :: rest =>
      let (second, rest) ← readAlternatives fuel rest
      return (.either first second, rest)
    | _ => return (first, rest)

def readSequence : Nat → Regex → List Char → Option (Regex × List Char)
  | 0, _, _ => none
  | fuel + 1, before, chars =>
    match chars with
    | [] => some (before, [])
    | '|' :: _ => some (before, chars)
    | ')' :: _ => some (before, chars)
    | _ => do
      let (part, rest) ← readAtom fuel chars
      match readRepetition rest with
      | some ((least, most), rest) =>
        let rest := if rest.head? == some '?' then rest.drop 1 else rest
        readSequence fuel (.seq before (.times least most part)) rest
      | none => readSequence fuel (.seq before part) rest

def readAtom : Nat → List Char → Option (Regex × List Char)
  | 0, _ => none
  | fuel + 1, chars =>
    match chars with
    | [] => none
    | '(' :: '?' :: rest =>
      let inside := match rest.span fun c => c != ':' && c != '>' && c != ')' with
        | (_, ')' :: after) => ')' :: after
        | (_, _ :: after) => after
        | (_, []) => []
      readGroup fuel inside
    | '(' :: rest => readGroup fuel rest
    | '[' :: '^' :: rest => do
      let (ranges, rest) ← readRanges (rest.length + 1) true rest
      return (.chars true ranges, rest)
    | '[' :: rest => do
      let (ranges, rest) ← readRanges (rest.length + 1) true rest
      return (.chars false ranges, rest)
    | '.' :: rest => some (anyChar, rest)
    | '^' :: rest => some (.start, rest)
    | '$' :: rest => some (.stop, rest)
    | '\\' :: 'A' :: rest => some (.start, rest)
    | '\\' :: 'z' :: rest => some (.stop, rest)
    | _ =>
      if startsLetterClass chars then
        some (.chars false (letterRanges ((chars.drop 1).headD 'd')), chars.drop 2)
      else do
        let (code, rest) ← readCode chars
        return (.chars false [(code, code)], rest)

def readGroup : Nat → List Char → Option (Regex × List Char)
  | 0, _ => none
  | fuel + 1, chars => do
    let (inside, rest) ← readAlternatives fuel chars
    match rest with
    | ')' :: rest => return (inside, rest)
    | _ => none

end

namespace Regex

def parse? (pattern : String) : Option Regex :=
  let chars := pattern.toList
  (readAlternatives (4 * chars.length + 4) chars).map (·.1)

def union (left right : List Nat) : List Nat :=
  left ++ right.filter (!left.contains ·)

def repeated (step : List Nat → List Nat) : Nat → List Nat → List Nat
  | 0, positions => positions
  | count + 1, positions => repeated step count (step positions)

/-- The positions after up to a number of steps. -/
def upTo (step : List Nat → List Nat) : Nat → List Nat → List Nat
  | 0, positions => positions
  | count + 1, positions => union positions (upTo step count (step positions))

def accepts (negated : Bool) (ranges : List (Nat × Nat)) (c : Char) : Bool :=
  (ranges.any fun (low, high) => low ≤ c.toNat && c.toNat ≤ high) != negated

def ends (text : Array Char) : Regex → List Nat → List Nat
  | .empty, positions => positions
  | .chars negated ranges, positions =>
    positions.filterMap fun position =>
      match text[position]? with
      | some c => if accepts negated ranges c then some (position + 1) else none
      | none => none
  | .start, positions => positions.filter (· == 0)
  | .stop, positions => positions.filter (· == text.size)
  | .seq first second, positions => ends text second (ends text first positions)
  | .either first second, positions => union (ends text first positions) (ends text second positions)
  | .times least most part, positions =>
    let reached := repeated (ends text part) least positions
    upTo (ends text part) (match most with
      | some most => most - least
      | none => text.size + 1) reached

def finds (expression : Regex) (text : String) : Bool :=
  let chars := text.toList.toArray
  !(ends chars expression (List.range (chars.size + 1))).isEmpty

end Regex

end ShapeForge.Pattern
