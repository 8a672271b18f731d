/-!
# Document nodes

The tree that a document denotes before its scalars are given a meaning: scalars with their tag,
sequences, mappings as flat lists of alternating keys and values, and references to nodes that
were named before.
-/

namespace ShapeForge.Yaml

/-- A place in a document, with line and column counted from one; zero means unknown. -/
structure Position where
  line : Nat := 0
  column : Nat := 0
  deriving Repr, Inhabited, BEq, DecidableEq

inductive Node where
  | absent
  | document (position : Position) (content : List Node)
  | scalar (position : Position) (tag text : String)
  | sequence (position : Position) (items : List Node)
  /-- Keys and values alternate. -/
  | mapping (position : Position) (content : List Node)
  | alias (position : Position) (target : Node)
  /-- A node of no known kind, with the number of its kind. -/
  | unknown (position : Position) (kind : Nat)
  deriving Repr, Inhabited

namespace Node

def position : Node → Position
  | .absent => {}
  | .document position _ => position
  | .scalar position _ _ => position
  | .sequence position _ => position
  | .mapping position _ => position
  | .alias position _ => position
  | .unknown position _ => position

end Node

end ShapeForge.Yaml
