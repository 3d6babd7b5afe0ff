/-!
What can be wrong with a TOML text.
-/

namespace ScriptSuite.Toml

/-- Why a text cannot be read. -/
inductive Flaw where
  | missingKey
  | missingEquals
  | missingValue
  | missingBracket
  | missingComma
  | strayCharacter
  | unclosedString
  | unknownEscape
  | invalidNumber
  | repeatedKey (name : String)
  /-- A kind of value that is not read: a fraction or an array. -/
  | otherValue
  deriving Repr, DecidableEq, Inhabited

def Flaw.message : Flaw → String
  | missingKey => "expected a key"
  | missingEquals => "expected '='"
  | missingValue => "expected a value"
  | missingBracket => "unclosed table"
  | missingComma => "expected ',' or a closing brace"
  | strayCharacter => "expected a newline"
  | unclosedString => "invalid string"
  | unknownEscape => "invalid escape sequence"
  | invalidNumber => "invalid number"
  | repeatedKey name => "duplicate key " ++ name
  | otherValue => "unsupported kind of value"

end ScriptSuite.Toml
