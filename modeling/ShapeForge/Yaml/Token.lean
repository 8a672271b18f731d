import ShapeForge.Yaml.Cursor

/-!
# Tokens

The tokens of the block and flow notations.  Indentation is already resolved: the start and the
end of a block collection are tokens of their own, and a key written without its indicator has
received one.
-/

namespace ShapeForge.Yaml

/-- Whether a scalar was written plainly. -/
inductive ScalarStyle where
  | plain
  | quoted
  deriving Repr, BEq, Inhabited

inductive TokenKind where
  | streamEnd
  | versionDirective (major minor : Nat)
  | tagDirective (handle tagPrefix : String)
  | documentStart
  | documentEnd
  | blockSequenceStart
  | blockMappingStart
  | blockEnd
  | flowSequenceStart
  | flowSequenceEnd
  | flowMappingStart
  | flowMappingEnd
  | blockEntry
  | flowEntry
  | key
  | value
  | alias (name : String)
  | anchor (name : String)
  | tag (handle suffix : String)
  | scalar (text : String) (style : ScalarStyle)
  /-- No token can be read from here on. -/
  | broken
  deriving Repr, BEq, Inhabited

structure Token where
  kind : TokenKind
  start : Mark
  stop : Mark
  deriving Repr, Inhabited

structure SyntaxError where
  mark : Mark
  problem : String
  deriving Repr, Inhabited

end ShapeForge.Yaml
