import ScriptSuite.Host.Fault
import ScriptSuite.Host.Signal
import ScriptSuite.Time.Duration

/-!
What goes wrong with a program that is run.
-/

namespace ScriptSuite

/-- An error of a program that is started, waited for or ended. -/
inductive JobError where
  | spawn (program : String) (cause : HostError)
  | timeout (program : String) (after : Duration)
  | exited (program : String)
  | unsupported (signal : Signal)
  | unsent (program : String) (signal : Signal) (reason : String)
  | stillRunning (program : String) (grace : Duration)
  | host (cause : HostError)
  deriving DecidableEq, Repr

def JobError.message : JobError → String
  | .spawn program cause => "failed to spawn " ++ program ++ ": " ++ cause.message
  | .timeout program after => program ++ " timed out after " ++ after.rounded
  | .exited program => program ++ " has already exited"
  | .unsupported signal => "signal " ++ signal.name ++ " is not supported on this platform"
  | .unsent program signal reason =>
    "failed to send " ++ signal.name ++ " to " ++ program ++ ": " ++ reason
  | .stillRunning program grace =>
    program ++ " did not exit within " ++ grace.rounded ++ " of being killed"
  | .host cause => cause.message

/-- Why an operation on a program gives no result. -/
inductive JobFault where
  | error (e : JobError)
  /-- A point in time lies too far ahead to be represented. -/
  | overflow
  /-- The program never ends, and it was to be waited for without a limit. -/
  | endless
  deriving DecidableEq, Repr

end ScriptSuite
