import ShapeForge.Json.Write
import ShapeForge.Log.Entry

/-!
# Log lines

An entry is one line: a JSON object, or level, message and fields for people to read.  A logger
has a threshold, and fields that all its entries carry.
-/

namespace ShapeForge.Log

inductive Form where
  | console
  | json
  deriving DecidableEq, Repr, Inhabited

namespace Form

def comma : Form → String
  | .console => ", "
  | .json => ","

def colon : Form → String
  | .console => ": "
  | .json => ":"

end Form

def escapeChar (c : Char) : List Char :=
  if c == '"' then ['\\', '"']
  else if c == '\\' then ['\\', '\\']
  else if c == '\n' then ['\\', 'n']
  else if c == '\r' then ['\\', 'r']
  else if c == '\t' then ['\\', 't']
  else if c.toNat < 32 then Json.codeEscape c
  else [c]

def quote (text : String) : String :=
  "\"" ++ String.ofList (text.toList.flatMap escapeChar) ++ "\""

def numberText (value : Decimal) : String :=
  match value with
  | .finite _ _ _ => value.plain
  | _ => quote value.plain

mutual

def valueText (form : Form) : Value → String
  | .string text => quote text
  | .int value => toString value
  | .number value => numberText value
  | .bool value => if value then "true" else "false"
  | .strings texts => "[" ++ form.comma.intercalate (texts.map quote) ++ "]"
  | .json value => value.write .plain
  | .misnamed pairs => "[" ++ form.comma.intercalate (pairTexts form pairs) ++ "]"

def pairTexts (form : Form) : List (Nat × Value × Value) → List String
  | [] => []
  | (position, key, value) :: rest =>
    ("\x7b" ++ quote "position" ++ form.colon ++ toString position ++ form.comma ++
      quote "key" ++ form.colon ++ valueText form key ++ form.comma ++
      quote "value" ++ form.colon ++ valueText form value ++ "\x7d") :: pairTexts form rest

end

def fieldsText (form : Form) (fields : List (String × Value)) : String :=
  form.comma.intercalate
    (fields.map fun (name, value) => quote name ++ form.colon ++ valueText form value)

def line (form : Form) (seconds : String) (entry : Entry) : String :=
  match form with
  | .json =>
    "\x7b" ++ fieldsText .json
      [("level", .string entry.level.name), ("ts", .json (.number seconds)),
        ("msg", .string entry.message)] ++
      (if entry.fields.isEmpty then "" else "," ++ fieldsText .json entry.fields) ++ "\x7d\n"
  | .console =>
    Text.upper entry.level.name ++ "\t" ++ entry.message ++
      (if entry.fields.isEmpty then ""
      else "\t\x7b" ++ fieldsText .console entry.fields ++ "\x7d") ++ "\n"

structure Logger where
  level : Level := .info
  form : Form := .console
  fields : List (String × Value) := []

namespace Logger

def enabled (logger : Logger) (level : Level) : Bool :=
  logger.level.rank ≤ level.rank

def text (logger : Logger) (seconds : String) (entries : List Entry) : String :=
  String.join ((entries.filter fun entry => logger.enabled entry.level).map fun entry =>
    line logger.form seconds { entry with fields := logger.fields ++ entry.fields })

/-- A logger whose entries carry further fields, and the entries that report what did not
pair up among them. -/
def with_ (logger : Logger) (values : List Value) : Logger × List Entry :=
  let paired := pair 0 values
  ({ logger with fields := logger.fields ++ paired.fields }, paired.problems)

def entries (logger : Logger) (level : Level) (message : String) (values : List Value) :
    List Entry :=
  if logger.enabled level then
    let paired := pair 0 values
    paired.problems ++ [{ level, message, fields := paired.fields }]
  else []

end Logger

end ShapeForge.Log
