import ShapeForge.Config.Toml
import ShapeForge.Files.Tree
import ShapeForge.Yaml.Compose
import ShapeForge.Yaml.Timestamp

/-!
# Configuration files

A configuration file is YAML, JSON, TOML or a list of variables, which its ending tells.
-/

namespace ShapeForge

namespace ConfigValue

mutual

def ofJson : Json → ConfigValue
  | .null => .null
  | .bool value => .bool value
  | .number literal => .number ((Decimal.rounded? literal).getD (.finite false 0 0))
  | .string word => .text word
  | .array items => .list (ofJsonItems items)
  | .object fields => .table (ofJsonFields fields)

def ofJsonItems : List Json → List ConfigValue
  | [] => []
  | item :: rest => ofJson item :: ofJsonItems rest

def ofJsonFields : List (String × Json) → List (String × ConfigValue)
  | [] => []
  | (key, value) :: rest =>
    let fields := ofJsonFields rest
    if fields.any (·.1 == key) then fields else (key, ofJson value) :: fields

end

def ofScalar (tag text : String) : ConfigValue :=
  match tag with
  | "!!null" => .null
  | "!!bool" => .bool (Text.lower text == "true")
  | "!!int" =>
    match Numeral.intLiteral? (text.toList.filter (· != '_')) with
    | some value => .int value
    | none => .text text
  | "!!float" =>
    let word := Text.lower text
    if word == ".nan" then .number .undefined
    else if word == ".inf" || word == "+.inf" then .number (.infinite false)
    else if word == "-.inf" then .number (.infinite true)
    else match Decimal.rounded? (String.ofList (text.toList.filter (· != '_'))) with
      | some value => .number value
      | none => .text text
  | _ => .text text

def keyOf? : Yaml.Node → Option String
  | .scalar _ _ word => some word
  | .alias _ (.scalar _ _ word) => some word
  | _ => none

/-- Fields with those of merged tables that they do not set themselves. -/
def mergeFields (fields : List (String × ConfigValue)) : ConfigValue →
    List (String × ConfigValue)
  | .table others => fields ++ others.filter fun (key, _) => !fields.any (·.1 == key)
  | .list (.table others :: _) => fields ++ others.filter fun (key, _) => !fields.any (·.1 == key)
  | _ => fields

mutual

/-- The value of a node of a document; no key may stand twice in a mapping. -/
def ofNode? : Yaml.Node → Option ConfigValue
  | .absent => some .null
  | .document _ [] => some .null
  | .document _ (content :: _) => ofNode? content
  | .scalar _ tag word =>
    some (if tag == "!!timestamp" then .moment else ofScalar tag word)
  | .sequence _ items => (ofNodes? items).map .list
  | .mapping _ content => (ofPairs? content).map .table
  | .alias _ target => ofNode? target
  | .unknown _ _ => some .null

def ofNodes? : List Yaml.Node → Option (List ConfigValue)
  | [] => some []
  | node :: rest => do some ((← ofNode? node) :: (← ofNodes? rest))

def ofPairs? : List Yaml.Node → Option (List (String × ConfigValue))
  | key :: value :: rest => do
    let key ← keyOf? key
    let value ← ofNode? value
    let fields ← ofPairs? rest
    if key == "<<" then some (mergeFields fields value)
    else if fields.any (·.1 == key) then none
    else some ((key, value) :: fields)
  | _ => some []

end

def ofAssignment? (line : String) : Option (String × ConfigValue) :=
  let line := Text.trim line
  let line := if line.startsWith "export " then (line.drop 7).toString else line
  (Text.cutAt '=' line).map fun (key, value) =>
    (Text.trim key, .text (unquote (Text.trim value)))
where
  unquote (text : String) : String :=
    match text.toList with
    | first :: rest =>
      if (first == '"' || first == '\'') && rest.getLast? == some first then
        String.ofList rest.dropLast
      else text
    | [] => text

/-- The variables of lines; empty lines and comments do not count. -/
def ofAssignments? : List String → Option (List (String × ConfigValue))
  | [] => some []
  | line :: rest => do
    let fields ← ofAssignments? rest
    let trimmed := Text.trim line
    if trimmed.isEmpty || trimmed.startsWith "#" then some fields
    else some ((← ofAssignment? line) :: fields)

/-- Only tables hold a configuration; nothing stands for an empty one. -/
def table? : ConfigValue → Option ConfigValue
  | .table fields => some (.table fields)
  | .null => some (.table [])
  | _ => none

def parse? (format text : String) : Option ConfigValue :=
  match format with
  | "yaml" => ofYaml text
  | "yml" => ofYaml text
  | "json" => ((Json.read? text).map ofJson).bind table?
  | "toml" => Toml.read? text
  | "env" => (ofAssignments? (Text.lines text)).map .table
  | "dotenv" => (ofAssignments? (Text.lines text)).map .table
  | _ => none
where
  ofYaml (text : String) : Option ConfigValue :=
    ((Yaml.Node.ofText? text).toOption.bind ofNode?).bind table?

end ConfigValue

end ShapeForge
