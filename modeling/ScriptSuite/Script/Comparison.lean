import ScriptSuite.Diff.Unified
import ScriptSuite.Script.Basic
import ScriptSuite.Script.Separator

/-!
Comparing a text with what a script expects.

Two texts match if they are equal up to a missing line feed at the end. In update mode
a text that does not match replaces the data of the archive file that the expected text
came from.
-/

namespace ScriptSuite

/-- A text and the text that is expected in its place, with the names that a mismatch shows for
them. -/
structure Comparison where
  actualName : String
  actual : String
  expectedName : String
  expected : String
  /-- The archive file that the expected text came from; only such a file is updated. -/
  golden : Option String
  deriving DecidableEq, Repr

namespace Comparison

/-- How a comparison ends. -/
inductive Verdict where
  | matched
  /-- The texts differ and the archive has been updated. -/
  | updated (script : Script)
  | mismatch
  deriving DecidableEq, Repr

/-- A text with a line feed at its end, unless it is empty. -/
def normalized (text : String) : String :=
  String.ofList (Text.normalize text.toList)

/-- Whether the two texts match. A line feed that one of them lacks at its end does not count, which
is why both are normalized first. -/
def agrees (c : Comparison) : Bool :=
  normalized c.actual == normalized c.expected

/-- The script with the actual text as the data of the golden file. -/
def updated? (c : Comparison) (script : Script) : Option Script :=
  c.golden.bind fun name => script.setFile? name (Text.bytesOf c.actual)

/-- Why the golden file cannot be updated. If a line of the actual text reads as a separator, the
script that is written back would have another archive than the one in memory. -/
def refusal? (c : Comparison) (update : Bool) : Option String :=
  match c.golden with
  | some entry =>
    if update && !c.agrees && Separator.occursIn c.actual.toList then
      some ("cannot update " ++ entry ++ ": " ++ c.actualName
        ++ " contains a line that reads as an archive separator")
    else none
  | none => none

/-- Compares the texts. Texts that match never lead to an update, and without update mode no
comparison changes the script. -/
def judge (c : Comparison) (script : Script) (update : Bool) : Verdict :=
  if c.agrees then .matched
  else if update then
    match c.updated? script with
    | some changed => .updated changed
    | none => .mismatch
  else .mismatch

/-- The unified difference from the expected to the actual text. -/
def difference (c : Comparison) : String :=
  Diff.unified c.expectedName (normalized c.expected) c.actualName (normalized c.actual)

/-- The head line of a mismatch. -/
def headline (c : Comparison) : String :=
  c.actualName ++ " and " ++ c.expectedName ++ " differ"

/-- The text of a mismatch. -/
def message (c : Comparison) : String :=
  c.headline ++ "\n" ++ c.difference

end Comparison
end ScriptSuite
