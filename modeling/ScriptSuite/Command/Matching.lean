import ScriptSuite.Command.Basic
import ScriptSuite.Script.Comparison
import ScriptSuite.Text.Number

/-!
Commands that check texts: comparison of files, and patterns.

What a pattern means is left to a pattern language, so that a statement about all
languages is one about whatever patterns match.
-/

namespace ScriptSuite

/-- A pattern that has been read. -/
structure Pattern where
  /-- Whether it matches somewhere in a text. -/
  occursIn : String → Bool
  /-- How many matches a text has that do not overlap. -/
  count : String → Nat

/-- A language of patterns: reads a pattern, or says what is wrong with it. Commands are stated over
any language, so that nothing that is proved of them depends on one. -/
abbrev PatternLanguage := String → Except String Pattern

namespace Matching

open Handler

/-- Takes over a script in which the golden file has the actual text, and writes that file. -/
def update (c : Comparison) (script : Script) : Handler Unit := do
  modify fun s =>
    { s with
      script := script
      updates := s.updates ++ c.golden.toList.map fun entry => ⟨entry, c.actual⟩ }
  let path ← resolve c.expectedName
  tryHost hostFault fun h => h.write path (Text.bytesOf c.actual)
  modify fun s => { s with hasUpdated := true }
  log ("updated " ++ c.expectedName)

/-- Checks a text against another, or updates the golden file with it. -/
def compareTexts (negated : Bool) (c : Comparison) : Handler Unit := do
  let s ← get
  match c.refusal? s.canUpdate with
  | some text => failed text
  | none =>
    match c.judge s.script s.canUpdate with
    | .matched => pure ()
    | .updated script => update c script
    | .mismatch => failed (if negated then c.headline else c.message)

/-- Checks a file against another, whose variables are put in first if `substitutes`. -/
def compareFiles (substitutes negated : Bool) (actualName expectedName : String) :
    Handler Unit := do
  let actual ← textOfFile actualName
  let text ← textOfFile expectedName
  let expected ← if substitutes then expand (Word.ofText text) else pure text
  let s ← get
  let golden :=
    if Session.isOutputName expectedName || substitutes || negated then none
    else s.goldenName? expectedName
  compareTexts negated ⟨actualName, actual, expectedName, expected, golden⟩

/-- `cmp file1 file2`: the files agree. -/
def cmp (negated : Bool) : List String → Handler Unit
  | [actual, expected] => compareFiles false negated actual expected
  | _ => usage false "cmp file1 file2"

/-- `cmpenv file1 file2`: the files agree once the variables of the second are put in. -/
def cmpenv (negated : Bool) : List String → Handler Unit
  | [actual, expected] => compareFiles true negated actual expected
  | _ => usage false "cmpenv file1 file2"

/-- The lead of the argument that asks for a number of matches. -/
def countLead : String := "-count="

/-- The number of matches that the first argument asks for, if it does; what is wrong with it
otherwise. A number that does not fit in 64 bits is refused like one that is none. -/
def splitCount (arguments : List String) : Except String (Option Nat × List String) :=
  match arguments with
  | first :: rest =>
    match Text.dropLead? countLead.toList first.toList with
    | some cs =>
      match (Text.natural? cs).filter fun n => n < Text.limit64 with
      | some n => .ok (some n, rest)
      | none => .error ("bad -count: " ++ Text.quoted first)
    | none => .ok (none, arguments)
  | [] => .ok (none, [])

/-- What stands in front of every pattern: `^` and `$` match at every line. -/
def linewise : String := "(?m)"

/-- Looks for a pattern in a text, where it has to occur `count` times if a number is given. A
pattern that cannot be read is a misuse, and no failed check. -/
def matchPattern (language : PatternLanguage) (negated : Bool) (count : Option Nat)
    (pattern source text : String) : Handler Unit :=
  match language (linewise ++ pattern) with
  | .error reason => misused ("invalid regex " ++ Text.quoted pattern ++ ": " ++ reason)
  | .ok found =>
    match count with
    | some want =>
      let got := found.count text
      if got = want then pure ()
      else
        failed ("found " ++ toString got ++ " matches for " ++ "\x60" ++ pattern
          ++ "\x60 in " ++ source ++ "; want " ++ toString want)
    | none =>
      if found.occursIn text then
        if negated then log ("[" ++ source ++ "]\n" ++ text) else pure ()
      else failed ("no match for \x60" ++ pattern ++ "\x60 found in " ++ source)

def matchText (language : PatternLanguage) (negated : Bool) (arguments : List String)
    (source usageText text : String) : Handler Unit :=
  match splitCount arguments with
  | .error text => misused text
  | .ok (count, [pattern]) => do
    if count.isSome && negated then misused "cannot use -count= with negated match"
    matchPattern language negated count pattern source text
  | .ok _ => usage false usageText

/-- `stdout [-count=N] pattern`: the output of the last program matches. -/
def stdout (language : PatternLanguage) (negated : Bool) (arguments : List String) :
    Handler Unit := do
  let s ← get
  matchText language negated arguments Session.stdoutName "stdout [-count=N] pattern" s.stdout

/-- `stderr [-count=N] pattern`: the error output of the last program matches. -/
def stderr (language : PatternLanguage) (negated : Bool) (arguments : List String) :
    Handler Unit := do
  let s ← get
  matchText language negated arguments Session.stderrName "stderr [-count=N] pattern" s.stderr

/-- `grep [-count=N] pattern file`: a file matches. The file is read before the other arguments are
looked at. -/
def grep (language : PatternLanguage) (negated : Bool) (arguments : List String) :
    Handler Unit := do
  let hasCount :=
    match arguments.head? with
    | some first => (Text.dropLead? countLead.toList first.toList).isSome
    | none => false
  let size := if hasCount then arguments.length - 1 else arguments.length
  match arguments.getLast? with
  | some file =>
    usage (size = 2) "grep [-count=N] pattern file"
    let text ← textOfFile file
    matchText language negated arguments.dropLast file "grep [-count=N] pattern file" text
  | none => usage false "grep [-count=N] pattern file"

end Matching
end ScriptSuite
