import ShapeForge.Fault
import ShapeForge.Json.Double
import ShapeForge.Json.Write
import ShapeForge.Yaml.Write

/-!
# Structured output

Data for other programs to read, as JSON or YAML.
-/

namespace ShapeForge.Structured

def checkFormat (format : String) : Except Fault Unit :=
  if ["text", "json", "yaml"].contains format then .ok ()
  else .error (.plain
    ("invalid format '" ++ format ++ "'. Valid formats: text, json, yaml"))

/-- Data in a format; the two formats may show the same data differently. -/
def write (json yaml : Json) (format : String) : Except Fault String :=
  match format with
  | "json" => .ok (Json.writeIndented 0 json ++ "\n")
  | "yaml" => .ok (trimBreaks (Yaml.write yaml) ++ "\n")
  | _ => .error (.plain ("invalid format for structured output: " ++ format))
where
  trimBreaks (text : String) : String :=
    String.ofList ((text.toList.reverse.dropWhile (· == '\n')).reverse)

/-- Free data in a format: mappings in the order of their keys, and numbers in double
precision. -/
def writeData (data : Json) (format : String) : Except Fault String :=
  write data.canonical.inDouble (Yaml.sorted data.canonical) format

end ShapeForge.Structured
