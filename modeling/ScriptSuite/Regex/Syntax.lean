import ScriptSuite.Text.Ranges

/-!
Patterns as trees.
-/

namespace ScriptSuite.Regex

/-- Conditions on a position: on what stands before and after it. Those on words look at
the letters of all languages, or of ASCII alone. -/
inductive Look where
  | textStart
  | textEnd
  | lineStart
  | lineEnd
  /-- As `lineStart`, where a carriage return ends lines too. -/
  | lineStartReturn
  /-- As `lineEnd`, where a carriage return ends lines too. -/
  | lineEndReturn
  | wordEdge (everyLanguage : Bool)
  | noWordEdge (everyLanguage : Bool)
  | wordStart (everyLanguage : Bool)
  | wordEnd (everyLanguage : Bool)
  | noWordBefore (everyLanguage : Bool)
  | noWordAfter (everyLanguage : Bool)
  deriving Repr, DecidableEq, Inhabited

/-- A pattern. Where it could match in several ways, what stands first is preferred. -/
inductive Expression where
  | empty
  | characters (set : Text.Ranges)
  | look (condition : Look)
  | sequence (first second : Expression)
  | either (preferred other : Expression)
  /-- At least `least` and at most `most` times, if there is a most; as often as possible
  if `greedy`, as seldom as possible if not. -/
  | repeated (body : Expression) (least : Nat) (most : Option Nat) (greedy : Bool)
  | group (body : Expression)
  deriving Repr, Inhabited

namespace Expression

/-- Whether a pattern may match without a character. -/
def canBeEmpty : Expression → Bool
  | empty => true
  | characters _ => false
  | look _ => true
  | sequence first second => first.canBeEmpty && second.canBeEmpty
  | either preferred other => preferred.canBeEmpty || other.canBeEmpty
  | repeated body least _ _ => least = 0 || body.canBeEmpty
  | group body => body.canBeEmpty

/-- Whether a pattern never matches a character. -/
def isAlwaysEmpty : Expression → Bool
  | empty => true
  | characters _ => false
  | look _ => true
  | sequence first second => first.isAlwaysEmpty && second.isAlwaysEmpty
  | either preferred other => preferred.isAlwaysEmpty && other.isAlwaysEmpty
  | repeated body _ most _ => most = some 0 || body.isAlwaysEmpty
  | group body => body.isAlwaysEmpty

/-- Repetition. What never matches a character need not match more than once. -/
def repeats (body : Expression) (least : Nat) (most : Option Nat) (greedy : Bool) : Expression :=
  if body.isAlwaysEmpty then
    repeated body (min least 1) (some (min (most.getD 1) 1)) greedy
  else repeated body least most greedy

end Expression
end ScriptSuite.Regex
