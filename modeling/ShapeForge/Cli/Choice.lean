import ShapeForge.Cli.Command

/-!
# Choosing a command

The command is the first word of a command line that is neither a flag nor the value of one.
Flags may stand in front of it.
-/

namespace ShapeForge.Cli

/-- Whether a word is a flag that takes the next word as its value.  Flags that are not known take
one too. -/
def takesNext (flags : List Flag) (word : String) : Bool :=
  match word.toList with
  | '-' :: '-' :: name =>
    !name.contains '=' &&
      !((Flag.named? flags (String.ofList name)).any fun flag => flag.implied?.isSome)
  | ['-', letter] =>
    letter != '=' && !((Flag.lettered? flags letter).any fun flag => flag.implied?.isSome)
  | _ => false

/-- The words that are neither flags nor values of flags.  A flag in front of the last word ends
them. -/
def operands (flags : List Flag) : List String → List String
  | [] => []
  | word :: rest =>
    if word == "--" then []
    else if takesNext flags word then
      match rest with
      | _ :: next :: more => operands flags (next :: more)
      | _ => []
    else if !word.isEmpty && !word.startsWith "-" then word :: operands flags rest
    else operands flags rest

/-- The words without the first one of a name that is neither a flag nor the value of one. -/
def withoutFirst (flags : List Flag) (name : String) : List String → List String
  | [] => []
  | word :: rest =>
    if word == "--" then word :: rest
    else if takesNext flags word then
      match rest with
      | value :: rest => word :: value :: withoutFirst flags name rest
      | [] => [word]
    else if word == name then rest
    else word :: withoutFirst flags name rest

/-- The distance of two words, in letters to insert, drop or replace: a row of the table from the
row before it. -/
def distanceRow (c : Char) (other : List Char) (above : List Nat) : List Nat :=
  go (above.headD 0 + 1) other above
where
  go (left : Nat) : List Char → List Nat → List Nat
    | d :: rest, diagonal :: up :: more =>
      let here := min (min (left + 1) (up + 1)) (if c == d then diagonal else diagonal + 1)
      left :: go here rest (up :: more)
    | _, _ => [left]

def distance (word other : String) : Nat :=
  let rows := word.toList.foldl (fun row c => distanceRow c other.toList row)
    (List.range (other.length + 1))
  rows.getLastD 0

/-- The commands that a word may have meant: those of a similar name, and those that it
starts. -/
def suggestions (word : String) : List String :=
  (Command.all.map (·.name)).filter fun name =>
    distance (Text.lower word) (Text.lower name) ≤ 2 ||
      (Text.lower word).toList.isPrefixOf (Text.lower name).toList

def unknownCommand (word : String) : Fault :=
  let similar := suggestions word
  .plain ("unknown command " ++ Text.quote word ++ " for " ++ Text.quote programName ++
    if similar.isEmpty then ""
    else "\n\nDid you mean this?\n" ++ String.join (similar.map fun name => "\t" ++ name ++ "\n"))

/-- The command of a command line with the words that are left; without one the program itself
is meant. -/
def choose (words : List String) : Except Fault (Option Command × List String) :=
  match operands globalFlags words with
  | [] => .ok (none, words)
  | first :: _ =>
    match Command.named? first with
    | some command => .ok (some command, withoutFirst globalFlags first words)
    | none => .error (unknownCommand first)

end ShapeForge.Cli
