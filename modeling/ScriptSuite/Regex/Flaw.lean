/-!
What can be wrong with a pattern.
-/

namespace ScriptSuite.Regex

inductive Flaw where
  | groupUnclosed
  | groupUnopened
  | groupNameEmpty
  | groupNameInvalid
  | groupNameUnclosed
  | groupNameRepeated
  | lookAround
  | backreference
  | flagUnknown
  | flagRepeated
  | flagNegationRepeated
  | flagNegationDangling
  | flagsUnfinished
  | operandMissing
  | countUnclosed
  | countInvalid
  | countEmpty
  | countReversed
  | escapeUnfinished
  | escapeUnknown
  | hexInvalid
  | hexEmpty
  | hexNoCharacter
  | boundaryUnclosed
  | boundaryUnknown
  | classUnclosed
  | classEscape
  | classRangeReversed
  | classRangeNoCharacter
  | propertyInvalid
  | propertyUnknown
  | propertyValueUnknown
  | needsUnicode
  | invalidUtf8
  | tooDeep
  deriving Repr, DecidableEq, Inhabited

namespace Flaw

/-- What is wrong, in words. -/
def reason : Flaw → String
  | groupUnclosed => "unclosed group"
  | groupUnopened => "unopened group"
  | groupNameEmpty => "empty capture group name"
  | groupNameInvalid => "invalid capture group character"
  | groupNameUnclosed => "unclosed capture group name"
  | groupNameRepeated => "duplicate capture group name"
  | lookAround => "look-around, including look-ahead and look-behind, is not supported"
  | backreference => "backreferences are not supported"
  | flagUnknown => "unrecognized flag"
  | flagRepeated => "duplicate flag"
  | flagNegationRepeated => "flag negation operator repeated"
  | flagNegationDangling => "dangling flag negation operator"
  | flagsUnfinished => "expected flag but got end of regex"
  | operandMissing => "repetition operator missing expression"
  | countUnclosed => "unclosed counted repetition"
  | countInvalid => "decimal literal invalid"
  | countEmpty => "repetition quantifier expects a valid decimal"
  | countReversed => "invalid repetition count range, the start must be <= the end"
  | escapeUnfinished => "incomplete escape sequence, reached end of pattern prematurely"
  | escapeUnknown => "unrecognized escape sequence"
  | hexInvalid => "invalid hexadecimal digit"
  | hexEmpty => "hexadecimal literal empty"
  | hexNoCharacter => "hexadecimal literal is not a Unicode scalar value"
  | boundaryUnclosed =>
    "special word boundary assertion is either unclosed or contains an invalid character"
  | boundaryUnknown =>
    "unrecognized special word boundary assertion, "
      ++ "valid choices are: start, end, start-half or end-half"
  | classUnclosed => "unclosed character class"
  | classEscape => "invalid escape sequence found in character class"
  | classRangeReversed => "invalid character class range, the start must be <= the end"
  | classRangeNoCharacter => "invalid range boundary, must be a literal"
  | propertyInvalid => "invalid Unicode character class"
  | propertyUnknown => "Unicode property not found"
  | propertyValueUnknown => "Unicode property value not found"
  | needsUnicode => "Unicode not allowed here"
  | invalidUtf8 => "pattern can match invalid UTF-8"
  | tooDeep => "exceeded the maximum number of nested parentheses/brackets (250)"

/-- The report on a pattern. -/
def message (flaw : Flaw) : String :=
  "regex parse error: " ++ flaw.reason

end Flaw
end ScriptSuite.Regex
