import ScriptSuite.Script.Basic
import ScriptSuite.Script.Separator

/-!
Writing scripts.

A script is written as its preamble and its archive. Data that is followed by a
separator gets a line feed at its end if it lacks one.
-/

namespace ScriptSuite.Script

/-- The separator line of a file. -/
def headerOf (f : ArchiveFile) : List Char :=
  Separator.line f.name.toList ++ f.ending.chars

/-- The text of an archive. All data but the last gets a line feed where it lacks one, for otherwise
the next separator would not start a line; the last data is written as it is. -/
def archiveSource : List ArchiveFile → List Char
  | [] => []
  | [f] => headerOf f ++ Text.decodeLossy f.data
  | f :: rest => headerOf f ++ Text.normalize (Text.decodeLossy f.data) ++ archiveSource rest

/-- The text of a script: the text before the archive as it was read, and the archive made anew. -/
def toSource (s : Script) : String :=
  s.preamble ++ String.ofList (archiveSource s.files)

end ScriptSuite.Script
