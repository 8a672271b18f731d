import ShapeForge.Shape.Trait

/-!
# Routes

The methods that operations may be bound to, and the two notations of their paths: the one of
the generated handlers, and the one of the mock server.
-/

namespace ShapeForge.Route

def methods : List String := ["GET", "POST", "PUT", "PATCH", "DELETE"]

/-- The method of an operation in capitals, if it is a known one. -/
def normalizeMethod (operation : ShapeId) (method : String) : Except Fault String :=
  let name := Text.upper (Text.trim method)
  if methods.contains name then .ok name else .error (.httpMethod operation.text method)

/-- The pattern under which a handler is registered: a label for the rest of the path ends in
three dots. -/
def pattern (method : String) (binding : HttpBinding) : String :=
  method ++ " " ++ Text.replaceAll binding.path "+\x7d" "...\x7d"

/-- What stands before and after the first occurrence of a word. -/
def cutWord (word : List Char) : List Char → Option (List Char × List Char)
  | [] => none
  | c :: rest =>
    match Text.dropLeading? word (c :: rest) with
    | some after => some ([], after)
    | none => (cutWord word rest).map fun (before, after) => (c :: before, after)

/-- The pattern of the mock server, where a label for the rest of the path is a star that ends
the pattern, and the name of that label. -/
def serverPattern (path : String) : String × String :=
  match cutWord ['+', '\x7d'] path.toList with
  | none => (path, "")
  | some (before, _) =>
    match Text.cutLast '\x7b' (String.ofList before) with
    | none => (path, "")
    | some (lead, label) => (lead ++ "*", label)

end ShapeForge.Route
