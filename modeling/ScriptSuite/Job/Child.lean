import ScriptSuite.Host.Processes
import ScriptSuite.Job.Error
import ScriptSuite.Job.Output

/-!
Running a program to its end.

A process is looked at every ten milliseconds. After it has ended, its output streams are
read until nobody can write to them any more, but for a second each at most: a process
that it started may hold them open.
-/

namespace ScriptSuite

/-- The time between two looks at a process. -/
def pollInterval : Duration := .ofMilliseconds 10

/-- How long an output stream is read after the end of its process. -/
def drainGrace : Duration := .ofSeconds 1

/-- A number of looks that is enough for a length of time, the first and the last
included. -/
def looksFor (d : Duration) : Nat :=
  d.nanoseconds / pollInterval.nanoseconds + 2

namespace Host

/-- Looks at a process until it has ended or `limit` is reached. -/
def pollEnd (id : ProcessId) (limit : Instant) : (looks : Nat) → Act (Option ExitStatus)
  | 0, h => (none, h)
  | looks + 1, h =>
    match h.collect id with
    | (some status, h) => (some status, h)
    | (none, h) =>
      let (now, h) := h.time
      if now.reached limit then (none, h) else pollEnd id limit looks (h.sleep pollInterval)

/-- Waits for the end of a process, wake-up by wake-up. There is nothing to wait for if no process
will ever go on, and after so many wake-ups as the host has patience the wait counts as endless. -/
def awaitEnd (id : ProcessId) : (wakes : Nat) → Act (Option ExitStatus)
  | 0, h => (none, h)
  | wakes + 1, h =>
    match h.collect id with
    | (some status, h) => (some status, h)
    | (none, h) =>
      match h.nextWake with
      | none => (none, h)
      | some wake => awaitEnd id wakes (h.passUntil wake)

/-- Waits until nobody can write to a stream any more or `limit` is reached. -/
def pollClosed (pipe : PipeId) (limit : Instant) : (looks : Nat) → Host → Host
  | 0, h => h
  | looks + 1, h =>
    if h.isOpen pipe then
      let (now, h) := h.time
      if now.reached limit then h else pollClosed pipe limit looks (h.sleep pollInterval)
    else h

/-- Reads a stream to its end, for `drainGrace` at most. What is written after that is lost. -/
def drain (h : Host) (pipe : PipeId) : Bytes × Host :=
  let (start, h) := h.time
  let h := pollClosed pipe (start.later drainGrace.nanoseconds) (looksFor drainGrace) h
  (h.written pipe, h)

/-- Kills a process, unless its end has been seen. Its number may be that of another one by then. -/
def kill (h : Host) (id : ProcessId) : Host :=
  match h.process? id with
  | some ⟨_, _, _, .reaped _⟩ => h
  | _ => h.signalProcess id .kill

/-- The output of a process that has ended. -/
def outputOf (h : Host) (p : Process) (status : ExitStatus) : Output × Host :=
  let (out, h) := h.drain p.stdout
  let (err, h) := h.drain p.stderr
  (.ofStatus status out err, h)

def launch (h : Host) (l : Launch) : Except JobFault Process × Host :=
  match h.spawn l with
  | (.error cause, h) => (.error (.error (.spawn l.program cause)), h)
  | (.ok p, h) => (.ok p, h)

/-- Runs a program to its end. One that has not ended at the deadline is killed, and its end is
collected, so that it leaves nothing behind but what it has written. -/
def runForeground (h : Host) (l : Launch) (deadline : Option Instant) :
    Except JobFault Output × Host :=
  let (start, h) := h.time
  match h.launch l with
  | (.error e, h) => (.error e, h)
  | (.ok p, h) =>
    match deadline with
    | none =>
      match awaitEnd p.id h.patience h with
      | (none, h) => (.error .endless, h)
      | (some status, h) =>
        let (output, h) := h.outputOf p status
        (.ok output, h)
    | some limit =>
      match pollEnd p.id limit (looksFor (limit.since start)) h with
      | (some status, h) =>
        let (output, h) := h.outputOf p status
        (.ok output, h)
      | (none, h) =>
        let h := (h.kill p.id).collect p.id |>.2
        let (now, h) := h.time
        (.error (.error (.timeout l.program (now.since start))), h)

end Host
end ScriptSuite
