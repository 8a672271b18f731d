import ShapeForge.Config.Value
import ShapeForge.Decimal.Shortest
import ShapeForge.Json.Read

/-!
# TOML

Configuration in lines of keys and values, grouped in tables.
-/

namespace ShapeForge.Toml

def skipBlanks (chars : List Char) : List Char :=
  chars.dropWhile fun c => c == ' ' || c == '\t'

def skipGap : Nat → List Char → List Char
  | 0, chars => chars
  | fuel + 1, chars =>
    match chars.dropWhile fun c => c == ' ' || c == '\t' || c == '\n' || c == '\r' with
    | '#' :: rest => skipGap fuel (rest.dropWhile (· != '\n'))
    | rest => rest

def atLineEnd (chars : List Char) : Bool :=
  match skipBlanks chars with
  | [] => true
  | '#' :: _ => true
  | '\n' :: _ => true
  | '\r' :: '\n' :: _ => true
  | _ => false

def isKeyChar (c : Char) : Bool :=
  c.isAlphanum || c == '_' || c == '-'

def escape? : Char → Option Char
  | 'b' => some (Char.ofNat 8)
  | 't' => some '\t'
  | 'n' => some '\n'
  | 'f' => some (Char.ofNat 12)
  | 'r' => some '\r'
  | 'e' => some (Char.ofNat 27)
  | '"' => some '"'
  | '\\' => some '\\'
  | _ => none

def codePoint? (digits : List Char) : Option Char :=
  (Numeral.digitsValue? 16 digits).bind fun code =>
    if h : code.isValidChar then some (Char.ofNatAux code h) else none

def readBasic (long : Bool) : Nat → List Char → Option (List Char × List Char)
  | 0, _ => none
  | _ + 1, [] => none
  | fuel + 1, c :: rest =>
    if c == '"' then
      if !long then some ([], rest)
      else match rest with
        | '"' :: '"' :: '"' :: '"' :: '"' :: after => some (['"', '"'], after)
        | '"' :: '"' :: '"' :: after => some (['"'], after)
        | '"' :: '"' :: after => some ([], after)
        | _ => (readBasic long fuel rest).map fun (text, after) => (c :: text, after)
    else if c == '\n' && !long then none
    else if c == '\\' then
      match rest with
      | 'u' :: after => unicode 4 after fuel
      | 'U' :: after => unicode 8 after fuel
      | 'x' :: after => unicode 2 after fuel
      | letter :: after =>
        match escape? letter with
        | some char => (readBasic long fuel after).map fun (text, after) => (char :: text, after)
        | none =>
          if long && (letter == '\n' || letter == ' ' || letter == '\t' || letter == '\r') then
            readBasic long fuel (rest.dropWhile fun c =>
              c == '\n' || c == ' ' || c == '\t' || c == '\r')
          else none
      | [] => none
    else (readBasic long fuel rest).map fun (text, after) => (c :: text, after)
where
  unicode (width : Nat) (chars : List Char) (fuel : Nat) : Option (List Char × List Char) :=
    match codePoint? (chars.take width) with
    | some char =>
      if chars.length < width then none
      else (readBasic long fuel (chars.drop width)).map fun (text, after) => (char :: text, after)
    | none => none

def readLiteral (long : Bool) : List Char → Option (List Char × List Char)
  | [] => none
  | '\'' :: rest =>
    if !long then some ([], rest)
    else match rest with
      | '\'' :: '\'' :: after => some ([], after)
      | _ => (readLiteral long rest).map fun (text, after) => ('\'' :: text, after)
  | c :: rest =>
    if c == '\n' && !long then none
    else (readLiteral long rest).map fun (text, after) => (c :: text, after)

/-- A line break right behind the opening quotes does not count. -/
def dropBreak : List Char → List Char
  | '\r' :: '\n' :: rest => rest
  | '\n' :: rest => rest
  | chars => chars

def readText (chars : List Char) : Option (String × List Char) :=
  let read := match chars with
    | '"' :: '"' :: '"' :: rest => readBasic true (rest.length + 1) (dropBreak rest)
    | '"' :: rest => readBasic false (rest.length + 1) rest
    | '\'' :: '\'' :: '\'' :: rest => readLiteral true (dropBreak rest)
    | '\'' :: rest => readLiteral false rest
    | _ => none
  read.map fun (text, after) => (String.ofList text, after)

def readKeyPart (chars : List Char) : Option (String × List Char) :=
  match chars with
  | '"' :: _ => readText chars
  | '\'' :: _ => readText chars
  | _ =>
    match chars.span isKeyChar with
    | ([], _) => none
    | (part, after) => some (String.ofList part, after)

def readKey : Nat → List Char → Option (List String × List Char)
  | 0, _ => none
  | fuel + 1, chars => do
    let (part, rest) ← readKeyPart (skipBlanks chars)
    match skipBlanks rest with
    | '.' :: more =>
      let (parts, after) ← readKey fuel more
      some (part :: parts, after)
    | after => some ([part], after)

def isMoment (word : List Char) : Bool :=
  word.head?.any Char.isDigit && (word.contains ':' || (word.drop 4).head? == some '-')

def scalar? (word : List Char) : Option ConfigValue :=
  let text := String.ofList word
  if text == "true" then some (.bool true)
  else if text == "false" then some (.bool false)
  else if isMoment word then some .moment
  else if ["inf", "+inf"].contains text then some (.number (.infinite false))
  else if text == "-inf" then some (.number (.infinite true))
  else if ["nan", "+nan", "-nan"].contains text then some (.number .undefined)
  else
    let digits := word.dropWhile fun c => c == '+' || c == '-'
    let zeroLed := digits.head? == some '0' && (digits.drop 1).head?.any Char.isDigit
    match Numeral.int64? text with
    | some value => if zeroLed then none else some (.int value)
    | none =>
      if zeroLed then none
      else (Decimal.rounded? (String.ofList (word.filter (· != '_')))).map .number

def isWordChar (c : Char) : Bool :=
  c.isAlphanum || c == '+' || c == '-' || c == '.' || c == '_' || c == ':'

def insert : List String → ConfigValue → List (String × ConfigValue) →
    Option (List (String × ConfigValue))
  | [], _, _ => none
  | [key], value, fields =>
    if fields.any (·.1 == key) then none else some (fields ++ [(key, value)])
  | key :: rest, value, fields =>
    match fields.find? (·.1 == key) with
    | none => (insert rest value []).map fun inner => fields ++ [(key, .table inner)]
    | some (_, .table inner) =>
      (insert rest value inner).map fun inner =>
        fields.map fun (name, old) => (name, if name == key then .table inner else old)
    | some (_, .list items) =>
      match items.getLast? with
      | some (.table inner) =>
        (insert rest value inner).map fun inner =>
          fields.map fun (name, old) =>
            (name, if name == key then .list (items.dropLast ++ [.table inner]) else old)
      | _ => none
    | _ => none

mutual

def readValue : Nat → List Char → Option (ConfigValue × List Char)
  | 0, _ => none
  | fuel + 1, chars =>
    match chars with
    | '[' :: rest => (readItems fuel (skipGap fuel rest)).map fun (items, after) =>
      (.list items, after)
    | '\x7b' :: rest => (readFields fuel [] (skipBlanks rest)).map fun (fields, after) =>
      (.table fields, after)
    | '"' :: _ => (readText chars).map fun (text, after) => (.text text, after)
    | '\'' :: _ => (readText chars).map fun (text, after) => (.text text, after)
    | _ =>
      let (word, after) := chars.span isWordChar
      (scalar? word).map (·, after)

def readItems : Nat → List Char → Option (List ConfigValue × List Char)
  | 0, _ => none
  | fuel + 1, chars =>
    match chars with
    | ']' :: after => some ([], after)
    | _ => do
      let (item, rest) ← readValue fuel chars
      match skipGap fuel rest with
      | ',' :: more =>
        let (items, after) ← readItems fuel (skipGap fuel more)
        some (item :: items, after)
      | ']' :: after => some ([item], after)
      | _ => none

def readFields : Nat → List (String × ConfigValue) → List Char →
    Option (List (String × ConfigValue) × List Char)
  | 0, _, _ => none
  | fuel + 1, fields, chars =>
    match chars with
    | '\x7d' :: after => some (fields, after)
    | _ => do
      let (key, rest) ← readKey fuel chars
      match skipBlanks rest with
      | '=' :: rest =>
        let (value, rest) ← readValue fuel (skipBlanks rest)
        let fields ← insert key value fields
        match skipBlanks rest with
        | ',' :: more => readFields fuel fields (skipBlanks more)
        | '\x7d' :: after => some (fields, after)
        | _ => none
      | _ => none

end

/-- Open a table for the lines that follow; it may exist already. -/
def openTable (key : List String) (fields : List (String × ConfigValue)) :
    Option (List (String × ConfigValue)) :=
  match insert key (.table []) fields with
  | some opened => some opened
  | none => if reaches key fields then some fields else none
where
  reaches : List String → List (String × ConfigValue) → Bool
    | [], _ => true
    | part :: rest, fields =>
      match fields.find? (·.1 == part) with
      | some (_, .table inner) => reaches rest inner
      | some (_, .list items) =>
        match items.getLast? with
        | some (.table inner) => reaches rest inner
        | _ => false
      | _ => false

def appendTable : List String → List (String × ConfigValue) →
    Option (List (String × ConfigValue))
  | [], _ => none
  | [key], fields =>
    match fields.find? (·.1 == key) with
    | none => some (fields ++ [(key, .list [.table []])])
    | some (_, .list items) =>
      some (fields.map fun (name, old) =>
        (name, if name == key then .list (items ++ [.table []]) else old))
    | _ => none
  | key :: rest, fields =>
    match fields.find? (·.1 == key) with
    | none => (appendTable rest []).map fun inner => fields ++ [(key, .table inner)]
    | some (_, .table inner) =>
      (appendTable rest inner).map fun inner =>
        fields.map fun (name, old) => (name, if name == key then .table inner else old)
    | _ => none

/-- Read the lines of a document; the table that is open is named by its key. -/
def readLines (opened : List String) (fields : List (String × ConfigValue)) :
    Nat → List Char → Option (List (String × ConfigValue))
  | 0, _ => none
  | fuel + 1, chars =>
    match skipGap fuel chars with
    | [] => some fields
    | '[' :: '[' :: rest => do
      let (key, after) ← readKey fuel rest
      match after with
      | ']' :: ']' :: after =>
        if atLineEnd after then readLines key (← appendTable key fields) fuel after else none
      | _ => none
    | '[' :: rest => do
      let (key, after) ← readKey fuel rest
      match after with
      | ']' :: after =>
        if atLineEnd after then readLines key (← openTable key fields) fuel after else none
      | _ => none
    | chars => do
      let (key, rest) ← readKey fuel chars
      match rest with
      | '=' :: rest =>
        let (value, after) ← readValue fuel (skipBlanks rest)
        if atLineEnd after then
          readLines opened (← insert (opened ++ key) value fields) fuel after
        else none
      | _ => none

def read? (text : String) : Option ConfigValue :=
  (readLines [] [] (text.length + 2) text.toList).map .table

end ShapeForge.Toml
