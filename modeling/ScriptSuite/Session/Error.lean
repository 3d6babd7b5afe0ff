import ScriptSuite.Job.Error

/-!
How a command ends that does not succeed.

Only a failed check takes part in negation. All other errors end the run, whatever the
script expects of the command.
-/

namespace ScriptSuite

/-- An error that a command ends with. Whether the script expects a failure matters to `failed`
alone. -/
inductive CommandError where
  /-- The check of the command did not hold. -/
  | failed (text : String)
  /-- The command was misused. -/
  | usage (text : String)
  | job (cause : JobError)
  | host (cause : HostError)
  /-- Ends the run with success. -/
  | stop (reason : String)
  /-- Ends the run, and reports the script as skipped. -/
  | skip (reason : String)
  deriving DecidableEq, Repr

def CommandError.message : CommandError → String
  | .failed text => text
  | .usage text => text
  | .job cause => cause.message
  | .host cause => cause.message
  | .stop reason => "stop: " ++ reason
  | .skip reason => "skip: " ++ reason

/-- Why a command does not come to its end. -/
inductive Interrupt where
  | error (e : CommandError)
  /-- The program that runs the scripts gives up on the script. -/
  | panic
  /-- The command waits for something that never happens. -/
  | endless
  deriving DecidableEq, Repr

/-- The interrupt that a fault of a job gives rise to. -/
def JobFault.interrupt : JobFault → Interrupt
  | .error e => .error (.job e)
  | .overflow => .panic
  | .endless => .endless

end ScriptSuite
