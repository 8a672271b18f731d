import ShapeForge.Document.Value
import ShapeForge.Json.Write
import ShapeForge.Yaml.Compose

/-!
# Reading documents

A document is the first one of a YAML text; JSON texts are read the same way, since YAML contains
them.
-/

namespace ShapeForge.Document

inductive ReadError where
  | malformed (error : Yaml.SyntaxError)
  | node (error : NodeError)
  deriving Repr

namespace ReadError

def message : ReadError → String
  | .malformed error => s!"yaml: line {error.mark.line + 1}: " ++ error.problem
  | .node error => error.message

end ReadError

def read (text : String) : Except ReadError Value :=
  match Yaml.Node.ofText? text with
  | .error error => .error (.malformed error)
  | .ok node => (Value.ofNode node).mapError .node

namespace Value

def json (value : Value) : String :=
  Json.write value.toJson

end Value

end ShapeForge.Document
