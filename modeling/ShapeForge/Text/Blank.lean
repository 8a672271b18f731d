/-!
# White space

The white space of Unicode, and the three ways in which texts are cut at it: trimming both ends,
splitting into fields, and splitting into lines.
-/

namespace ShapeForge.Text

def isBlank (c : Char) : Bool :=
  let code := c.toNat
  (9 ≤ code && code ≤ 13) || code == 0x20 || code == 0x85 || code == 0xA0 || code == 0x1680 ||
    (0x2000 ≤ code && code ≤ 0x200A) || code == 0x2028 || code == 0x2029 || code == 0x202F ||
    code == 0x205F || code == 0x3000

def trimChars (chars : List Char) : List Char :=
  ((chars.dropWhile isBlank).reverse.dropWhile isBlank).reverse

def trim (text : String) : String :=
  String.ofList (trimChars text.toList)

/-- Cut a list at every element that satisfies the test; the pieces may be empty. -/
def splitWhere {α : Type} (cut : α → Bool) : List α → List (List α)
  | [] => [[]]
  | a :: rest =>
    if cut a then [] :: splitWhere cut rest
    else match splitWhere cut rest with
      | [] => [[a]]
      | piece :: pieces => (a :: piece) :: pieces

/-- The non-empty pieces between characters that satisfy the test. -/
def fieldsWhere (cut : Char → Bool) (text : String) : List String :=
  ((splitWhere cut text.toList).filter (!·.isEmpty)).map String.ofList

def fields (text : String) : List String :=
  fieldsWhere isBlank text

def split (separator : Char) (text : String) : List String :=
  (splitWhere (· == separator) text.toList).map String.ofList

def lines (text : String) : List String :=
  split '\n' text

/-- What stands before and after the first occurrence of a character. -/
def cutAt (separator : Char) (text : String) : Option (String × String) :=
  match text.toList.span (· != separator) with
  | (before, _ :: after) => some (String.ofList before, String.ofList after)
  | (_, []) => none

/-- What stands before and after the last occurrence of a character. -/
def cutLast (separator : Char) (text : String) : Option (String × String) :=
  match text.toList.reverse.span (· != separator) with
  | (after, _ :: before) => some (String.ofList before.reverse, String.ofList after.reverse)
  | (_, []) => none

def dropLeading? : List Char → List Char → Option (List Char)
  | [], rest => some rest
  | _ :: _, [] => none
  | expected :: word, c :: rest => if c == expected then dropLeading? word rest else none

/-- Replace every occurrence of a non-empty word, from left to right. -/
def replaceChars (word replacement : List Char) : Nat → List Char → List Char
  | 0, rest => rest
  | _ + 1, [] => []
  | fuel + 1, c :: rest =>
    match dropLeading? word (c :: rest) with
    | some after => replacement ++ replaceChars word replacement fuel after
    | none => c :: replaceChars word replacement fuel rest

def replaceAll (text word replacement : String) : String :=
  String.ofList (replaceChars word.toList replacement.toList (text.length + 1) text.toList)

def containsWord (word : List Char) : List Char → Bool
  | [] => word.isEmpty
  | c :: rest => (dropLeading? word (c :: rest)).isSome || containsWord word rest

end ShapeForge.Text
