import ScriptSuite.Host.Behaviour
import ScriptSuite.Host.Clock
import ScriptSuite.Host.Fault
import ScriptSuite.Path.Location

/-!
The host: files, a clock, and processes.

Everything that scripts do, they do to a host. It is a value, and what happens on it is
determined by its files, its programs and the pace of its clock. The journal lists what
has been done to processes and sandboxes, newest first.
-/

namespace ScriptSuite

abbrev ProcessId := Nat

/-- The number of an output stream that is read by the host. -/
abbrev PipeId := Nat

/-- How a process stands to the host. An end is seen in two steps: a process that has ended keeps
its number until somebody has asked how, and from then on the number may stand for another one. -/
inductive ProcessState where
  /-- Pauses up to `wake`, or for ever; `noted` are the signals that came meanwhile. -/
  | running (wake : Option Instant) (reaction : Signal → Reaction)
      (next : List Signal → Behaviour) (noted : List Signal)
  /-- Has ended, and nobody has asked how. -/
  | ended (status : ExitStatus)
  /-- Has ended, and its number may be given to another process. -/
  | reaped (status : ExitStatus)

structure Process where
  id : ProcessId
  stdout : PipeId
  stderr : PipeId
  state : ProcessState

/-- Something that has been done on a host. What is said about processes that must not be disturbed
is said about these events. -/
inductive HostEvent where
  | started (id : ProcessId)
  /-- The end of a process was seen. -/
  | reaped (id : ProcessId)
  /-- A signal was sent, to a process that had not been reaped if `live`. -/
  | signalled (id : ProcessId) (signal : Signal) (live : Bool)
  | removed (place : Place)
  deriving DecidableEq, Repr

/-- A host. Besides what a program can look at it has what decides how things go on: the pace of the
clock, the programs that can be loaded, and the order in which scripts end that run together.
Whatever holds of all hosts holds of all of these. -/
structure Host where
  /-- The root folder. -/
  files : Node
  clock : Clock
  processes : List Process
  /-- What has been written to each output stream. -/
  pipes : List Bytes
  /-- The variables that sessions start from. -/
  environment : Environment
  /-- The names that lead to the folder that relative paths start from. They are texts, since the
  program is asked for this folder as a path. -/
  home : List (List Char)
  /-- The program that runs the scripts. -/
  executable : Path
  /-- What a program does when it is started. -/
  load : Invocation → Except Refusal Behaviour
  /-- How many names have been made up. -/
  names : Nat
  /-- How many wake-ups of processes are waited for before one counts as endless. -/
  patience : Nat
  /-- In which order so many scripts end that run at the same time. -/
  finishing : Nat → List Nat
  journal : List HostEvent

namespace Host

/-- A result and the host after it. -/
abbrev Act (α : Type) := Host → α × Host

/-- The folder that relative paths start from, as a place. -/
def folder (h : Host) : Place := h.home.map .text

def record (h : Host) (event : HostEvent) : Host :=
  { h with journal := event :: h.journal }

end Host
end ScriptSuite
