import ScriptSuite.Host.FileTree
import ScriptSuite.Host.Signal
import ScriptSuite.Time.Duration
import ScriptSuite.Variable.Environment

/-!
What a process does.

A behaviour is a tree of everything a process may still do: what it writes, how it
changes the files, how long it pauses and what it does after that, given the signals
that came meanwhile. Any program is some behaviour, so that a statement about all
behaviours is one about all programs.
-/

namespace ScriptSuite

inductive ExitStatus where
  | code (n : Nat)
  /-- By the signal of that number. -/
  | signal (number : Nat)
  deriving DecidableEq, Repr

inductive Stream where
  | stdout
  | stderr
  deriving DecidableEq, Repr

/-- How a process takes a signal. One that cannot be caught kills whatever the reaction is. -/
inductive Reaction where
  | dies
  | ignores
  /-- Goes on, and is told of the signal after its pause. -/
  | notes
  deriving DecidableEq, Repr

/-- What a process does from now on. -/
inductive Behaviour where
  | exit (code : Nat)
  /-- Ends by the signal of that number, which it sends to itself. -/
  | abort (signal : Nat)
  | write (stream : Stream) (data : Bytes) (next : Behaviour)
  /-- Changes the files; what follows depends on the files as they were. -/
  | change (update : Node → Node) (next : Node → Behaviour)
  | pause (length : Duration) (reaction : Signal → Reaction) (next : List Signal → Behaviour)
  /-- Starts another process that shares the output streams. -/
  | fork (child next : Behaviour)
  /-- Does nothing more, and does not end. -/
  | idle

/-- Where a process stands after it has done all that takes no time. -/
inductive Stop where
  | ended (status : ExitStatus)
  | paused (length : Duration) (reaction : Signal → Reaction) (next : List Signal → Behaviour)
  | stuck

/-- What a process has done up to its next stop. None of it takes time, so that others see all of it
or nothing. -/
structure Progress where
  files : Node
  stdout : Bytes
  stderr : Bytes
  children : List Behaviour
  stop : Stop

/-- The progress with some output in front. -/
def Progress.wrote (p : Progress) : Stream → Bytes → Progress
  | .stdout, data => { p with stdout := data ++ p.stdout }
  | .stderr, data => { p with stderr := data ++ p.stderr }

/-- Lets a process run up to its next stop. -/
def Behaviour.proceed : Behaviour → Node → Progress
  | .exit code, files => ⟨files, [], [], [], .ended (.code code)⟩
  | .abort signal, files => ⟨files, [], [], [], .ended (.signal signal)⟩
  | .write stream data next, files => (next.proceed files).wrote stream data
  | .change update next, files => (next files).proceed (update files)
  | .pause length reaction next, files => ⟨files, [], [], [], .paused length reaction next⟩
  | .fork child next, files =>
    let p := next.proceed files
    { p with children := child :: p.children }
  | .idle, files => ⟨files, [], [], [], .stuck⟩

/-- A program as it is started: the image, and what it is given. -/
structure Invocation where
  /-- The content of the program's file. -/
  image : Bytes
  arguments : List String
  environment : Environment
  /-- The working directory. -/
  folder : Place
  stdin : Bytes

end ScriptSuite
