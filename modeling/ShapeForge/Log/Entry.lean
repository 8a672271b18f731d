import ShapeForge.Decimal.Basic
import ShapeForge.Fault
import ShapeForge.Json.Basic
import ShapeForge.Text.Casing

/-!
# Log entries

An entry is a message of a level with named values.  Callers may pass names and values as one
list; what does not pair up is reported by entries of its own.
-/

namespace ShapeForge.Log

/-- How important an entry is.  The three highest levels only serve as thresholds. -/
inductive Level where
  | debug
  | info
  | warn
  | error
  | alarm
  | abort
  | fatal
  deriving DecidableEq, Repr, Inhabited

namespace Level

def rank : Level → Nat
  | .debug => 0
  | .info => 1
  | .warn => 2
  | .error => 3
  | .alarm => 4
  | .abort => 5
  | .fatal => 6

def name : Level → String
  | .debug => "debug"
  | .info => "info"
  | .warn => "warn"
  | .error => "error"
  | .alarm => "dpanic"
  | .abort => "panic"
  | .fatal => "fatal"

def all : List Level :=
  [.debug, .info, .warn, .error, .alarm, .abort, .fatal]

/-- The level that a text names in any case; no text means `info`. -/
def parse (text : String) : Except Fault Level :=
  if text.isEmpty then .ok .info
  else match all.find? (·.name == Text.lower text) with
    | some level => .ok level
    | none => .error (.config "log.level" (some text) "must be debug, info, warn or error" none)

end Level

inductive Value where
  | string (text : String)
  | int (value : Int)
  | number (value : Decimal)
  | bool (value : Bool)
  | strings (texts : List String)
  | json (value : Json)
  /-- Pairs whose names are not texts, with their positions. -/
  | misnamed (pairs : List (Nat × Value × Value))

structure Entry where
  level : Level
  message : String
  fields : List (String × Value) := []

/-- Names and values from a list in which they alternate. -/
structure Paired where
  fields : List (String × Value) := []
  dangling : Option Value := none
  misnamed : List (Nat × Value × Value) := []

def pair (position : Nat) : List Value → Paired
  | [] => {}
  | [lone] => { dangling := some lone }
  | key :: value :: rest =>
    let paired := pair (position + 2) rest
    match key with
    | .string name => { paired with fields := (name, value) :: paired.fields }
    | _ => { paired with misnamed := (position, key, value) :: paired.misnamed }

namespace Paired

def problems (paired : Paired) : List Entry :=
  (match paired.dangling with
  | some value => [{ level := .error, message := "Ignored key without a value.",
                     fields := [("ignored", value)] }]
  | none => []) ++
  (if paired.misnamed.isEmpty then []
  else [{ level := .error, message := "Ignored key-value pairs with non-string keys.",
          fields := [("invalid", .misnamed paired.misnamed)] }])

end Paired

end ShapeForge.Log
