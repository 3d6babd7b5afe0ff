import ScriptSuite.Host.Image

/-!
Processes of the host.

Time passes from one wake-up of a process to the next. Every pause takes at least a
nanosecond, so that the nanoseconds up to a point in time bound the wake-ups before it.
Only `collect` sees that a process has ended, and from then on its number is free:
`signalProcess` records whether it was.
-/

namespace ScriptSuite

namespace Process

/-- When the process goes on, if it is running and will. -/
def wake? (p : Process) : Option Instant :=
  match p.state with
  | .running wake .. => wake
  | _ => none

def isRunning (p : Process) : Bool :=
  match p.state with
  | .running .. => true
  | _ => false

/-- Whether the process goes on at that time. -/
def isDue (p : Process) (now : Instant) : Bool :=
  match p.wake? with
  | some wake => now.reached wake
  | none => false

end Process

namespace Host

def startDelay : Duration := .ofMilliseconds 1

def earlier (a b : Option Instant) : Option Instant :=
  match a, b with
  | none, b => b
  | a, none => a
  | some s, some t => if t.reached s then some s else some t

/-- When the next process goes on. -/
def nextWake (h : Host) : Option Instant :=
  h.processes.foldl (fun acc p => earlier acc p.wake?) none

/-- Adds to the output of a stream. -/
def appendPipe (pipes : List Bytes) (id : PipeId) (data : Bytes) : List Bytes :=
  if data.isEmpty then pipes else pipes.modify id fun old => old ++ data

/-- The process that reacts to signals like a new one, and goes on at `wake` with
`behaviour`. -/
def freshState (wake : Instant) (behaviour : Behaviour) : ProcessState :=
  .running (some wake) (fun _ => .dies) (fun _ => behaviour) []

/-- The state of a process after its stop. A pause of no length takes a nanosecond, since time would
not go on otherwise. -/
def stateAfter (now : Instant) : Stop → ProcessState
  | .ended status => .ended status
  | .paused length reaction next =>
    .running (some (now.later (max 1 length.nanoseconds))) reaction next []
  | .stuck => .running none (fun _ => .dies) (fun _ => .idle) []

/-- Lets the process with that number go on up to its next stop. -/
def resume (h : Host) (p : Process) : Host :=
  match p.state with
  | .running _ _ next noted =>
    let progress := (next noted).proceed h.files
    let pipes := appendPipe h.pipes p.stdout progress.stdout
    let pipes := appendPipe pipes p.stderr progress.stderr
    let state := stateAfter h.clock.now progress.stop
    let first := h.processes.length
    let children := progress.children.mapIdx fun i child =>
      { p with id := first + i, state := freshState (h.clock.now.later 1) child }
    { h with
      files := progress.files
      pipes := pipes
      processes :=
        (h.processes.map fun q => if q.id = p.id then { p with state := state } else q)
          ++ children }
  | _ => h

/-- Lets all processes go on that are due. -/
def resumeDue (h : Host) : Host :=
  (h.processes.filter fun p => p.isDue h.clock.now).foldl resume h

/-- The host at a later time. -/
def setNow (h : Host) (now : Instant) : Host :=
  { h with clock := { h.clock with now := now } }

/-- Lets time pass up to `limit`, wake-up by wake-up. -/
def passFrom (limit : Instant) : (steps : Nat) → Host → Host
  | 0, h => h.setNow limit
  | steps + 1, h =>
    match h.nextWake with
    | none => h.setNow limit
    | some wake =>
      if limit.reached wake then
        passFrom limit steps (h.setNow ⟨max wake.nanoseconds h.clock.now.nanoseconds⟩).resumeDue
      else h.setNow limit

/-- Lets time pass up to a later time. -/
def passUntil (h : Host) (limit : Instant) : Host :=
  if limit.nanoseconds ≤ h.clock.now.nanoseconds then h
  else passFrom limit (limit.nanoseconds - h.clock.now.nanoseconds + 2) h

def sleep (h : Host) (d : Duration) : Host :=
  h.passUntil (h.clock.now.later d.nanoseconds)

/-- The host as it is at its next look. Whoever looks at the clock or at a process lets time pass,
and everything that is due in that time happens before the answer. -/
def look (h : Host) : Host :=
  let h := h.passUntil h.clock.nextLook
  { h with clock := { h.clock with looks := h.clock.looks + 1 } }

/-- Looks at the clock. -/
def time (h : Host) : Instant × Host :=
  let h := h.look
  (h.clock.now, h)

def process? (h : Host) (id : ProcessId) : Option Process :=
  h.processes.find? fun p => p.id = id

def setState (h : Host) (id : ProcessId) (state : ProcessState) : Host :=
  { h with
    processes := h.processes.map fun p => if p.id = id then { p with state := state } else p }

/-- Looks whether a process has ended, and lets go of its number if it has. Nothing else sees an
end, and one that has been seen is seen again. -/
def collect (h : Host) (id : ProcessId) : Option ExitStatus × Host :=
  let h := h.look
  match h.process? id with
  | none => (none, h)
  | some p =>
    match p.state with
    | .running .. => (none, h)
    | .ended status => (some status, (h.setState id (.reaped status)).record (.reaped id))
    | .reaped status => (some status, h)

/-- The state of a running process that gets a signal. The signal KILL is not for the process to
react to, and nothing happens to one that has ended. -/
def stateOnSignal (signal : Signal) : ProcessState → ProcessState
  | .running wake reaction next noted =>
    match if signal = .kill then .dies else reaction signal with
    | .dies => .ended (.signal signal.number)
    | .ignores => .running wake reaction next noted
    | .notes => .running wake reaction next (noted ++ [signal])
  | state => state

/-- Sends a signal to the process that has that number. The journal keeps whether the number was
still that of the process, which is where a signal to a stranger would show. -/
def signalProcess (h : Host) (id : ProcessId) (signal : Signal) : Host :=
  match h.process? id with
  | none => h.record (.signalled id signal false)
  | some p =>
    let live :=
      match p.state with
      | .reaped _ => false
      | _ => true
    (h.setState id (stateOnSignal signal p.state)).record (.signalled id signal live)

/-- What has been written to a stream. -/
def written (h : Host) (id : PipeId) : Bytes :=
  h.pipes.getD id []

/-- Whether a running process may still write to a stream. -/
def isOpen (h : Host) (id : PipeId) : Bool :=
  h.processes.any fun p => p.isRunning && (p.stdout = id || p.stderr = id)

/-! ### Starting programs -/

def hasNull (s : String) : Bool :=
  s.toList.any fun c => c.toNat = 0

end Host

/-- A program that is to be started. -/
structure Launch where
  arguments : List String
  environment : Environment
  folder : Path
  stdin : Bytes

/-- The name of the program in messages. -/
def Launch.program (l : Launch) : String := l.arguments.headD ""

namespace Host

/-- What a program does that is to be started. -/
def behaviourOf (h : Host) (l : Launch) : Except HostError Behaviour :=
  if l.arguments.any hasNull || l.environment.any fun e => hasNull e.1 || hasNull e.2 then
    .error .nullInArgument
  else
    match h.place l.folder with
    | .error .nullInPath => .error .nullInArgument
    | .error e => .error e
    | .ok folder =>
      match h.files.find? folder with
      | none => .error (.refused .noEntry)
      | some (.file _) => .error (.refused .notFolder)
      | some (.folder ..) =>
        match h.files.findImage folder l.environment (l.arguments.headD "") l.arguments with
        | .error r => .error (.refused r)
        | .ok (image, arguments) =>
          match h.load ⟨image, arguments, l.environment, folder, l.stdin⟩ with
          | .error r => .error (.refused r)
          | .ok behaviour => .ok behaviour

/-- Starts a process that does as `behaviour` says. It has two output streams of its own, and does
nothing before its delay is over. -/
def start (h : Host) (behaviour : Behaviour) : Process × Host :=
  let p : Process :=
    ⟨h.processes.length, h.pipes.length, h.pipes.length + 1,
      freshState (h.clock.now.later startDelay.nanoseconds) behaviour⟩
  (p, ({ h with processes := h.processes ++ [p], pipes := h.pipes ++ [[], []] }).record
    (.started p.id))

def spawn (h : Host) (l : Launch) : Except HostError Process × Host :=
  match h.behaviourOf l with
  | .error e => (.error e, h)
  | .ok behaviour =>
    let (p, h) := h.start behaviour
    (.ok p, h)

end Host
end ScriptSuite
