import ScriptSuite.Command.Matching
import ScriptSuite.Regex.Matching
import ScriptSuite.Regex.Parser
import ScriptSuite.Regex.Weight

/-!
The language of patterns that checks of texts use: regular expressions over characters,
with a bound on the size of their automata.
-/

namespace ScriptSuite.Regex

/-- The report on a pattern that is too large. -/
def tooLarge : String :=
  "Compiled regex exceeds size limit of " ++ toString Expression.weightLimit ++ " bytes."

/-- The pattern of an automaton. -/
def Automaton.pattern (a : Automaton) : Pattern :=
  ⟨fun text => a.occursIn text.toList, fun text => a.count text.toList⟩

/-- Reads a regular expression. -/
def language : PatternLanguage := fun source =>
  match Expression.parse source.toList with
  | .error flaw => .error flaw.message
  | .ok e =>
    if e.weight > Expression.weightLimit then .error tooLarge
    else .ok e.automaton.pattern

end ScriptSuite.Regex
