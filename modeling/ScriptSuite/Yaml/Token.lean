/-!
Tokens of YAML texts.
-/

namespace ScriptSuite.Yaml

/-- How a scalar is written. -/
inductive Style where
  | plain
  | quoted
  | literal
  | folded
  deriving Repr, DecidableEq, Inhabited

/-- A token. Where blocks begin and end follows from their columns. -/
inductive Token where
  | version (major minor : Nat)
  | tagHandle (handle : String)
  | documentStart
  | documentEnd
  | blockSequence
  | blockMapping
  | blockEnd
  | flowSequence
  | flowSequenceEnd
  | flowMapping
  | flowMappingEnd
  | blockEntry
  | flowEntry
  | key
  | value
  | anchor (name : String)
  | reference (name : String)
  | tag (handle suffix : String)
  | scalar (text : String) (style : Style)
  deriving Repr, DecidableEq, Inhabited

end ScriptSuite.Yaml
