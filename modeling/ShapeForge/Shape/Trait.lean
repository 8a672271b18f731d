import ShapeForge.Word
import ShapeForge.Fault
import ShapeForge.Json.Read
import ShapeForge.Text.Casing

/-!
# Traits

A trait attaches a payload to a shape or member.  The payload is kept as its compact JSON text
and read by the accessors.  A payload `null` reads as the empty text or as zero.
-/

namespace ShapeForge

/-- A trait: what it says and its payload as JSON text. -/
structure Trait where
  id : ShapeId
  payload : String
  deriving Repr, Inhabited, DecidableEq

abbrev Traits := List Trait

structure HttpBinding where
  method : String := ""
  uri : String := ""
  code : Int := 200
  deriving Repr, Inhabited, DecidableEq

namespace Trait

def required : ShapeId := .prelude "required"
def documentation : ShapeId := .prelude "documentation"
def error : ShapeId := .prelude "error"
def pattern : ShapeId := .prelude "pattern"
def http : ShapeId := .prelude "http"
def httpLabel : ShapeId := .prelude "httpLabel"
def httpQuery : ShapeId := .prelude "httpQuery"
def httpError : ShapeId := .prelude "httpError"
def streaming : ShapeId := .prelude "streaming"
def enumValue : ShapeId := .prelude "enumValue"
def jsonName : ShapeId := .prelude "jsonName"

/-- The text of a payload: that of a JSON string, and the empty one for `null`. -/
def text? (payload : String) : Option String :=
  match Json.read? payload with
  | some (.string text) => some text
  | some .null => some ""
  | _ => none

def decimalInt? (literal : String) : Option Int :=
  let (negative, digits) := match literal.toList with
    | '-' :: digits => (true, digits)
    | '+' :: digits => (false, digits)
    | digits => (false, digits)
  if digits.isEmpty || !digits.all Char.isDigit then none
  else
    let magnitude := digits.foldl (fun value c => value * 10 + (c.toNat - '0'.toNat)) 0
    let value : Int := if negative then -(magnitude : Int) else magnitude
    if Word.fitsSigned value then some value else none

/-- The whole number of a payload, and zero for `null`. -/
def int? (payload : String) : Option Int :=
  match Json.read? payload with
  | some (.number literal) => decimalInt? literal
  | some .null => some 0
  | _ => none

/-- The members of a binding set one after another; names are taken up to case.  `none` marks a
member of the wrong type. -/
def bindingFields (binding : HttpBinding) : List (String × Json) → Option HttpBinding
  | [] => some binding
  | (key, value) :: rest =>
    let named (name : String) := Text.equalFold key name
    match value with
    | .null => bindingFields binding rest
    | .string text =>
      if named "method" then bindingFields { binding with method := text } rest
      else if named "uri" then bindingFields { binding with uri := text } rest
      else if named "code" then none
      else bindingFields binding rest
    | .number literal =>
      if named "method" || named "uri" then none
      else if named "code" then
        match decimalInt? literal with
        | some code => bindingFields { binding with code } rest
        | none => none
      else bindingFields binding rest
    | _ =>
      if named "method" || named "uri" || named "code" then none
      else bindingFields binding rest

/-- The binding of a payload.  A status code that is absent or zero means success. -/
def binding? (payload : String) : Option HttpBinding :=
  let read := match Json.read? payload with
    | some (.object fields) => bindingFields { code := 0 } fields
    | some .null => some { code := 0 }
    | _ => none
  read.map fun binding => if binding.code == 0 then { binding with code := 200 } else binding

end Trait

namespace Traits

def get? (traits : Traits) (id : ShapeId) : Option Trait :=
  traits.find? (·.id == id)

def has (traits : Traits) (id : ShapeId) : Bool :=
  (traits.get? id).isSome

def text? (traits : Traits) (id : ShapeId) : Option String :=
  (traits.get? id).bind fun trait => Trait.text? trait.payload

def isRequired (traits : Traits) : Bool :=
  traits.has Trait.required

def documentation (traits : Traits) : String :=
  (traits.text? Trait.documentation).getD ""

def pattern? (traits : Traits) : Option String :=
  traits.text? Trait.pattern

def fault? (traits : Traits) : Option String :=
  traits.text? Trait.error

def isLabel (traits : Traits) : Bool :=
  traits.has Trait.httpLabel

def query? (traits : Traits) : Option String :=
  traits.text? Trait.httpQuery

def jsonName? (traits : Traits) : Option String :=
  traits.text? Trait.jsonName

def isStreaming (traits : Traits) : Bool :=
  traits.has Trait.streaming

def status? (traits : Traits) : Option Int :=
  (traits.get? Trait.httpError).bind fun trait => Trait.int? trait.payload

/-- Where the operation is reached; fails if the payload is no binding. -/
def http? (traits : Traits) : Except Fault (Option HttpBinding) :=
  match traits.get? Trait.http with
  | none => .ok none
  | some trait =>
    match Trait.binding? trait.payload with
    | some binding => .ok (some binding)
    | none =>
      .error (.context ("decoding " ++ Trait.http.text) (.plain "payload is not a binding"))

end Traits

namespace HttpBinding

/-- A trailing plus marks a label that takes the rest of the path. -/
def withoutPlus (label : List Char) : List Char :=
  if label.getLast? == some '+' then label.dropLast else label

/-- The names between braces, where an opening brace without its closing one ends the search. -/
def labelsFrom : Nat → List Char → List String
  | 0, _ => []
  | fuel + 1, chars =>
    match chars.dropWhile (· != '\x7b') with
    | [] => []
    | _ :: inside =>
      match inside.span (· != '\x7d') with
      | (label, _ :: rest) => String.ofList (withoutPlus label) :: labelsFrom fuel rest
      | (_, []) => []

def labels (binding : HttpBinding) : List String :=
  labelsFrom (binding.uri.length + 1) binding.uri.toList

def path (binding : HttpBinding) : String :=
  match Text.cutAt '?' binding.uri with
  | some (path, _) => path
  | none => binding.uri

end HttpBinding

end ShapeForge
