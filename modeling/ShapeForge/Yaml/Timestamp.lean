/-!
# Timestamps

A plain scalar that reads as a date, or as a date with a time of day, is a timestamp.
-/

namespace ShapeForge.Yaml

def shortNumber? : List Char → Option (Nat × List Char)
  | first :: rest =>
    if !first.isDigit then none
    else
      let tens := first.toNat - '0'.toNat
      match rest with
      | second :: rest =>
        if second.isDigit then some (tens * 10 + (second.toNat - '0'.toNat), rest)
        else some (tens, second :: rest)
      | [] => some (tens, [])
  | [] => none

def twoDigits? : List Char → Option (Nat × List Char)
  | first :: second :: rest =>
    if first.isDigit && second.isDigit then
      some ((first.toNat - '0'.toNat) * 10 + (second.toNat - '0'.toNat), rest)
    else none
  | _ => none

def after? (c : Char) : List Char → Option (List Char)
  | first :: rest => if first == c then some rest else none
  | [] => none

def daysIn (year month : Nat) : Nat :=
  if month == 2 then
    if year % 4 == 0 && (year % 100 != 0 || year % 400 == 0) then 29 else 28
  else if [4, 6, 9, 11].contains month then 30
  else 31

/-- What follows a date in front: a year of four digits, a month and a day. -/
def afterDate? (chars : List Char) : Option (List Char) := do
  let (digits, rest) := chars.span Char.isDigit
  if digits.length != 4 then none
  let year := digits.foldl (fun value c => value * 10 + (c.toNat - '0'.toNat)) 0
  let (month, rest) ← shortNumber? (← after? '-' rest)
  let (day, rest) ← shortNumber? (← after? '-' rest)
  if 1 ≤ month && month ≤ 12 && 1 ≤ day && day ≤ daysIn year month then some rest else none

/-- What follows a time of day in front: hours, minutes and seconds, and a fraction of one. -/
def afterTime? (chars : List Char) : Option (List Char) := do
  let (hour, rest) ← shortNumber? chars
  let (minute, rest) ← shortNumber? (← after? ':' rest)
  let (second, rest) ← shortNumber? (← after? ':' rest)
  if hour ≥ 24 || minute ≥ 60 || second ≥ 60 then none
  match rest with
  | mark :: digit :: more =>
    if (mark == '.' || mark == ',') && digit.isDigit then some (more.dropWhile Char.isDigit)
    else some rest
  | _ => some rest

/-- Whether the characters are a time zone: `Z`, or hours and minutes behind a sign. -/
def isZone (chars : List Char) : Bool :=
  match chars with
  | ['Z'] => true
  | sign :: rest =>
    (sign == '+' || sign == '-') && ((do
      let (hours, rest) ← twoDigits? rest
      let (minutes, rest) ← twoDigits? (← after? ':' rest)
      some (rest.isEmpty && hours ≤ 24 && minutes ≤ 60)).getD false)
  | [] => false

def isTimestamp (text : String) : Bool :=
  match afterDate? text.toList with
  | none => false
  | some [] => true
  | some (' ' :: time) => (afterTime? time).any List.isEmpty
  | some (mark :: time) => (mark == 'T' || mark == 't') && (afterTime? time).any isZone

end ShapeForge.Yaml
