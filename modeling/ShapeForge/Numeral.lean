import ShapeForge.Word
import ShapeForge.Text.Quoted

/-!
# Numerals

Whole numbers in decimal, or in another base behind a mark, with underscores between digits.
-/

namespace ShapeForge.Numeral

/-- The number that digits of a base denote; there must be at least one. -/
def digitsValue? (base : Nat) : List Char → Option Nat
  | [] => none
  | digits => digits.foldlM (fun value c => (Text.hexDigit? c).bind fun digit =>
    if digit < base then some (value * base + digit) else none) 0

/-- Underscores may separate digits: one between two digits or after the mark of a base. -/
def underscoresFit (digits : List Char) (afterMark : Bool) : Bool :=
  go digits afterMark
where
  go : List Char → Bool → Bool
    | [], _ => true
    | '_' :: c :: rest, true => c != '_' && go (c :: rest) false
    | '_' :: _, _ => false
    | _ :: rest, _ => go rest true

/-- The base of an unsigned number and its digits: a mark after a zero gives the base, and a zero
alone in front means octal. -/
def splitBase : List Char → Nat × List Char × Bool
  | '0' :: 'x' :: rest => (16, rest, true)
  | '0' :: 'X' :: rest => (16, rest, true)
  | '0' :: 'o' :: rest => (8, rest, true)
  | '0' :: 'O' :: rest => (8, rest, true)
  | '0' :: 'b' :: rest => (2, rest, true)
  | '0' :: 'B' :: rest => (2, rest, true)
  | '0' :: c :: rest => (8, c :: rest, true)
  | digits => (10, digits, false)

def natLiteral? (chars : List Char) : Option Nat :=
  let (base, digits, marked) := splitBase chars
  if digits.contains '_' then
    if underscoresFit digits marked then digitsValue? base (digits.filter (· != '_')) else none
  else digitsValue? base digits

def intLiteral? : List Char → Option Int
  | '-' :: rest => (natLiteral? rest).map fun value => -(value : Int)
  | '+' :: rest => (natLiteral? rest).map Int.ofNat
  | rest => (natLiteral? rest).map Int.ofNat

def int64? (text : String) : Option Int :=
  (intLiteral? text.toList).filter Word.fitsSigned

def nat64? (text : String) : Option Nat :=
  (natLiteral? text.toList).filter Word.fits

inductive Problem where
  | malformed
  | outOfRange
  deriving DecidableEq, Repr

namespace Problem

/-- The wording of the problem with a text that a reader of some name refused. -/
def message (problem : Problem) (reader text : String) : String :=
  "strconv." ++ reader ++ ": parsing " ++ Text.quote text ++ ": " ++
    match problem with
    | .malformed => "invalid syntax"
    | .outOfRange => "value out of range"

end Problem

def within {α : Type} (fits : α → Bool) : Option α → Except Problem α
  | none => .error .malformed
  | some value => if fits value then .ok value else .error .outOfRange

def decimalWord (text : String) : Except String Nat :=
  (within Word.fits (digitsValue? 10 text.toList)).mapError (·.message "ParseUint" text)

def word (text : String) : Except String Nat :=
  (within Word.fits (natLiteral? text.toList)).mapError (·.message "ParseUint" text)

def signedWord (text : String) : Except String Int :=
  (within Word.fitsSigned (intLiteral? text.toList)).mapError
    (·.message "ParseInt" text)

end ShapeForge.Numeral
