/-!
# Sorted texts

Lists of texts in ascending order of their characters, without repetitions.
-/

namespace ShapeForge.Text

def insertSorted (text : String) : List String → List String
  | [] => [text]
  | first :: rest =>
    if text == first then first :: rest
    else if text < first then text :: first :: rest
    else first :: insertSorted text rest

def sortedDistinct (texts : List String) : List String :=
  texts.foldl (fun sorted text => insertSorted text sorted) []

end ShapeForge.Text
