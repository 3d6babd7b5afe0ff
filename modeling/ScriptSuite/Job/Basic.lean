import ScriptSuite.Job.Child
import ScriptSuite.Script.Basic

/-!
Jobs: programs that run in the background.

A job has ended for good once its output has been collected: from then on it gives that
output, and nothing is asked of its process any more.
-/

namespace ScriptSuite

/-- A program that runs in the background. The output is kept once it has been collected, and a job
that has it is never looked at again. -/
structure Job where
  name : Option String
  arguments : List String
  /-- What its end is judged by. -/
  expectation : Expectation
  process : Process
  /-- The output, once it has been collected. -/
  output : Option Output

namespace Job

/-- The program, as messages name it. -/
def program (j : Job) : String := j.arguments.headD ""

/-- The name of a job in reports. -/
def label (j : Job) : String := j.name.getD j.program

def start (l : Launch) (name : Option String) (expectation : Expectation) (h : Host) :
    Except JobFault Job × Host :=
  match h.launch l with
  | (.error e, h) => (.error e, h)
  | (.ok p, h) => (.ok ⟨name, l.arguments, expectation, p, none⟩, h)

/-- Whether the job is still running. This is a look at the process: if it has ended its number is
given away. -/
def isRunning (j : Job) (h : Host) : Bool × Host :=
  if j.output.isSome then (false, h)
  else
    let (status, h) := h.collect j.process.id
    (status.isNone, h)

/-- What the job has written so far. It is read leniently as it is, so that a character of which
only a part has come is shown as a mark. -/
def stdoutSoFar (j : Job) (h : Host) : String :=
  Text.stringOf (h.written j.process.stdout)

/-- What the job has written to its error stream so far. -/
def stderrSoFar (j : Job) (h : Host) : String :=
  Text.stringOf (h.written j.process.stderr)

/-- Waits for the end of the job, and gives its output. A job that does not end in time
goes on. -/
def wait (j : Job) (timeout : Duration) (h : Host) : Except JobFault Output × Job × Host :=
  match j.output with
  | some output => (.ok output, j, h)
  | none =>
    let (start, h) := h.time
    match Host.pollEnd j.process.id (start.later timeout.nanoseconds) (looksFor timeout) h with
    | (some status, h) =>
      let (output, h) := h.outputOf j.process status
      (.ok output, { j with output := some output }, h)
    | (none, h) =>
      let (now, h) := h.time
      (.error (.error (.timeout j.program (now.since start))), j, h)

/-- Sends a signal to the job, if it is running. Between the look and the signal nobody else sees
the end of the process, so that the number cannot have been given away. -/
def signal (j : Job) (signal : Signal) (h : Host) : Except JobFault Unit × Host :=
  match j.isRunning h with
  | (false, h) => (.error (.error (.exited j.program)), h)
  | (true, h) => (.ok (), h.signalProcess j.process.id signal)

/-- Looks at a process until its end is seen or `limit` is reached. At the limit it is not
looked at any more. -/
def pollGone (id : ProcessId) (limit : Instant) : (looks : Nat) → Host.Act Bool
  | 0, h => (false, h)
  | looks + 1, h =>
    let (now, h) := h.time
    if now.reached limit then (false, h)
    else
      match h.collect id with
      | (some _, h) => (true, h)
      | (none, h) => pollGone id limit looks (h.sleep pollInterval)

/-- Kills the job if it is running, and waits for its end. With no grace the end is never
seen. -/
def terminate (j : Job) (grace : Duration) (h : Host) : Except JobFault Unit × Host :=
  match j.isRunning h with
  | (false, h) => (.ok (), h)
  | (true, h) =>
    let (now, h) := (h.kill j.process.id).time
    match now.plus? grace with
    | none => (.error .overflow, h)
    | some limit =>
      match pollGone j.process.id limit (looksFor grace) h with
      | (true, h) => (.ok (), h)
      | (false, h) => (.error (.error (.stillRunning j.program grace)), h)

end Job
end ScriptSuite
