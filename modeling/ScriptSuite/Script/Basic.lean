import ScriptSuite.Script.Word
import ScriptSuite.Text.Line
import ScriptSuite.Text.Quoted
import ScriptSuite.Text.Utf8

/-!
Scripts.

A script is a list of instructions, then an archive of files. The text before the
archive is kept, so that a script can be written back.
-/

namespace ScriptSuite

/-- What an instruction expects of its command. A misuse of a command is no failure in this sense:
it ends the run whatever is expected. -/
inductive Expectation where
  | success
  /-- Written `!`: the command has to fail. -/
  | failure
  /-- Written `?`: both are accepted. -/
  | either
  deriving DecidableEq, Repr, Inhabited

namespace Expectation

/-- The mark in front of the command. -/
def mark? : Expectation → Option Char
  | .success => none
  | .failure => some '!'
  | .either => some '?'

def name : Expectation → String
  | .success => "success"
  | .failure => "failure"
  | .either => "either"

/-- Whether the command has to fail. -/
def isNegated (e : Expectation) : Bool :=
  e == .failure

end Expectation

/-- A condition `[tag]` or `[!tag]` of an instruction. -/
structure Condition where
  negated : Bool
  tag : String
  deriving DecidableEq, Repr

/-- A line of a script that runs a command. Its text is kept as it was written, since the log shows
it, and its words are kept as parts, since variables are put in only when the line is run. -/
structure Instruction where
  /-- The number of the line, from one. -/
  line : Nat
  /-- The line without its ending. -/
  text : String
  conditions : List Condition
  expectation : Expectation
  name : String
  arguments : List Word
  deriving DecidableEq, Repr

/-- A file of the archive. The ending of its separator line is kept so that the script can be
written back as it was; everything else about that line is made anew from the name. -/
structure ArchiveFile where
  /-- The path below the sandbox. -/
  name : String
  data : Bytes
  /-- How the separator line ends. -/
  ending : Text.Ending
  deriving DecidableEq, Repr

/-- A text that has been put into the archive file of that name. -/
structure Update where
  name : String
  text : String
  deriving DecidableEq, Repr

/-- A script that has been read. Writing it back uses the preamble and the files alone, so that the
instructions have no part in it. No two files have the same name. -/
structure Script where
  instructions : List Instruction
  files : List ArchiveFile
  /-- The text before the first separator. -/
  preamble : String
  deriving DecidableEq, Repr

/-- What is wrong with a line. -/
inductive Fault where
  | unterminatedQuote (quote : Word.Quote)
  | malformedSeparator (text : String)
  | duplicateFile (name : String)
  | missingCommand
  | malformedCondition (text : String)
  deriving DecidableEq, Repr

/-- A script that cannot be read, and the line where reading stopped. Lines after it have not been
looked at, so that there is never more than one fault. -/
structure ParseError where
  line : Nat
  fault : Fault
  deriving DecidableEq, Repr

def Fault.message : Fault → String
  | .unterminatedQuote q => "unterminated " ++ String.singleton q.mark ++ " quote"
  | .malformedSeparator text => "malformed archive separator " ++ Text.quoted text
  | .duplicateFile name => "duplicate file " ++ Text.quoted name ++ " in archive"
  | .missingCommand => "missing command"
  | .malformedCondition text => "malformed condition " ++ Text.quoted text

def ParseError.message (e : ParseError) : String :=
  "line " ++ toString e.line ++ ": " ++ e.fault.message

namespace Script

def file? (s : Script) (name : String) : Option ArchiveFile :=
  s.files.find? fun f => f.name == name

def hasFile (s : Script) (name : String) : Bool :=
  s.files.any fun f => f.name == name

/-- Puts other data into the first file of that name. The other files stay where they are, and
nothing is added if there is none. -/
def replaceIn (name : String) (data : Bytes) : List ArchiveFile → List ArchiveFile
  | [] => []
  | f :: rest =>
    if f.name = name then { f with data := data } :: rest else f :: replaceIn name data rest

/-- The script with other data in the file of that name, if there is one. -/
def setFile? (s : Script) (name : String) (data : Bytes) : Option Script :=
  if s.hasFile name then some { s with files := replaceIn name data s.files } else none

end Script
end ScriptSuite
