import ScriptSuite.Host.Behaviour
import ScriptSuite.Text.Utf8

/-!
The result of a program that has ended.
-/

namespace ScriptSuite

/-- How a program ended, and what it wrote. -/
structure Output where
  /-- The code that it exited with, unless a signal ended it. -/
  exitCode : Option Int
  /-- The number of the signal that ended it. -/
  signal : Option Int
  stdout : String
  stderr : String
  deriving DecidableEq, Repr

namespace Output

/-- Whether the program exited with zero. A program that was ended by a signal has not succeeded. -/
def isSuccess (o : Output) : Bool :=
  o.exitCode == some 0

/-- The text of the exit status; a code goes before a signal. -/
def status (o : Output) : String :=
  match o.exitCode, o.signal with
  | some code, _ => "exit status " ++ toString code
  | none, some signal => "terminated by signal " ++ toString signal
  | none, none => "unknown exit status"

/-- The result of a program that ended with a status. What it wrote is read leniently. -/
def ofStatus (status : ExitStatus) (stdout stderr : Bytes) : Output where
  exitCode :=
    match status with
    | .code n => some n
    | .signal _ => none
  signal :=
    match status with
    | .code _ => none
    | .signal number => some number
  stdout := Text.stringOf stdout
  stderr := Text.stringOf stderr

end Output
end ScriptSuite
