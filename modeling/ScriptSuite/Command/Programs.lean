import ScriptSuite.Command.Basic
import ScriptSuite.Command.StandIn

/-!
Commands on programs.

A program runs in the foreground, and is judged at once, or in the background as a job,
and is judged when it is waited for.
-/

namespace ScriptSuite.Programs

open Handler

/-- `stdin filename`: the input of the next program. -/
def stdin (_ : Bool) : List String → Handler Unit
  | [name] => do
    let data ←
      if Session.isOutputName name then do
        let text ← textOfFile name
        pure (Text.bytesOf text)
      else do
        let path ← resolve name
        match ← ofHost fun h => h.read path with
        | .ok data => pure data
        | .error e => failed ("stdin " ++ name ++ ": " ++ e.message)
    modify fun s => { s with stdin := some data }
  | _ => usage false "stdin filename"

/-- How a program is to run. -/
inductive Ground where
  | foreground
  | background (name : Option String)
  deriving DecidableEq, Repr

/-- The mark of a program that runs in the background. -/
def jobMark : Char := '&'

/-- How the last argument of `exec` makes it run, if it is a mark: `&`, or `&name&`. The argument is
looked at as it is after variables have been put in and quotes taken off. -/
def jobMark? (argument : String) : Option Ground :=
  match argument.toList with
  | [c] => if c = jobMark then some (.background none) else none
  | c :: d :: rest =>
    if c = jobMark && (d :: rest).getLast? == some jobMark && !rest.isEmpty then
      some (.background (some (String.ofList (d :: rest).dropLast)))
    else none
  | [] => none

/-- Takes the mark off the arguments of `exec`. -/
def splitMark (arguments : List String) : List String × Ground :=
  match arguments.getLast?.bind jobMark? with
  | some ground => (arguments.dropLast, ground)
  | none => (arguments, .foreground)

/-- The command line that a program of a session has. A program that the runner stands in for is
started as the runner itself, with a flag in front of the command line that tells it so. -/
def commandLine (s : Session) (arguments : List String) : List String :=
  if s.programs.contains (arguments.headD "") then
    StandIn.commandLine s.host.executable.text arguments
  else arguments

def hasJob (s : Session) (name : String) : Bool :=
  s.jobs.any fun job => job.name == some name

/-- What is started for a command line; the input is used up by it. -/
def launch (arguments : List String) : Handler Launch :=
  modifyGet fun s =>
    (⟨arguments, s.environment, s.folder, s.stdin.getD []⟩, { s with stdin := none })

/-- Starts a job. The outcome of the instruction is left to a later `wait`, and the job keeps what
is expected of it until then. -/
def execBackground (l : Launch) (name : Option String) : Handler Unit := do
  let s ← get
  match name with
  | some text =>
    if hasJob s text then
      misused ("duplicate background process name " ++ Text.quoted text)
    else pure ()
  | none => pure ()
  let job ← tryHost JobFault.interrupt (Job.start l name s.expectation)
  modify fun s => { s with jobs := s.jobs ++ [job], isDeferred := true }

/-- Runs a program to its end. Its output is kept and logged before its status is looked at, so that
it is there for later commands if the failure was expected. -/
def execForeground (l : Launch) (label : String) : Handler Unit := do
  let s ← get
  let output ← tryHost JobFault.interrupt fun h => h.runForeground l s.deadline
  modify fun s =>
    (s.writeOutput output.stdout output.stderr).setOutput output.stdout output.stderr
  if output.isSuccess then pure () else failed (label ++ ": " ++ output.status)

/-- `exec program [args...] [&|&name&]`: runs a program. -/
def exec (_ : Bool) (arguments : List String) : Handler Unit := do
  let (line, ground) := splitMark arguments
  usage (!line.isEmpty) "exec program [args...] [&|&name&]"
  let s ← get
  let l ← launch (commandLine s line)
  match ground with
  | .background name => execBackground l name
  | .foreground => execForeground l (line.headD "")

/-- The text for a job that is not there. -/
def noJob (name : String) : CommandError :=
  .usage ("no background process named " ++ Text.quoted name)

/-- Takes the jobs from a session that are to be waited for: the first of that name, or
all. -/
def takeJobs (name : Option String) : Handler (List Job) := do
  let s ← get
  match name with
  | none =>
    set { s with jobs := [] }
    pure s.jobs
  | some name =>
    match s.jobs.find? fun job => job.name == some name with
    | none => fail (noJob name)
    | some job =>
      set { s with jobs := s.jobs.eraseP fun job => job.name == some name }
      pure [job]

/-- What is wrong with the end of a job, if anything. It is judged by what was expected where it was
started, not where it is waited for. -/
def verdict? (job : Job) (output : Output) : Option String :=
  match job.expectation, output.isSuccess with
  | .success, false =>
    some (job.label ++ ": unexpected command failure (" ++ output.status ++ ")")
  | .failure, true => some (job.label ++ ": unexpected command success")
  | _, _ => none

/-- How long a job may be waited for: as long as the session allows, but never beyond the deadline
of the script. It is found anew for every job. -/
def waitLimit : Handler Duration := do
  let s ← get
  match s.deadline with
  | none => pure s.waitTimeout
  | some limit =>
    let now ← onHost Host.time
    pure ⟨min s.waitTimeout.nanoseconds (limit.since now).nanoseconds⟩

/-- What has been gathered from jobs that were waited for. -/
structure Gathered where
  stdout : String
  stderr : String
  failures : List String

/-- Waits for jobs one after another. If one does not end in time, it and those after it
go back to the session. -/
def waitEach (acc : Gathered) : List Job → Handler Gathered
  | [] => pure acc
  | job :: rest => do
    let limit ← waitLimit
    let (result, job) ← onHost fun h =>
      let (result, job, h) := job.wait limit h
      ((result, job), h)
    match result with
    | .error fault =>
      modify fun s => { s with jobs := s.jobs ++ job :: rest }
      throw fault.interrupt
    | .ok output =>
      log ("[background] " ++ job.label ++ ": " ++ output.status)
      modify fun s => s.writeOutput output.stdout output.stderr
      waitEach
        ⟨acc.stdout ++ output.stdout, acc.stderr ++ output.stderr,
          acc.failures ++ (verdict? job output).toList⟩ rest

/-- `wait [name]`: waits for jobs, and judges them. All of them are waited for before any verdict
counts, and their outputs are put together in the order in which they were started. -/
def wait (_ : Bool) (arguments : List String) : Handler Unit := do
  usage (arguments.length ≤ 1) "wait [name]"
  let jobs ← takeJobs arguments.head?
  let gathered ← waitEach ⟨"", "", []⟩ jobs
  modify fun s => s.setOutput gathered.stdout gathered.stderr
  if gathered.failures.isEmpty then pure ()
  else failed ("\n".intercalate gathered.failures)

/-- The signal that the arguments of `kill` name, and the arguments after it. -/
def splitSignal (arguments : List String) : Except String (Signal × List String) :=
  match arguments with
  | first :: rest =>
    match Text.dropLead? ['-'] first.toList with
    | some cs =>
      let text := String.ofList cs
      match Signal.parse? text with
      | some signal => .ok (signal, rest)
      | none => .error (Signal.unknown text)
    | none => .ok (.kill, arguments)
  | [] => .ok (.kill, [])

def signalJob (job : Job) (signal : Signal) : Handler Unit :=
  tryHost JobFault.interrupt (job.signal signal)

/-- Sends a signal to each job that is running, and gives their number. A job may end between the
look at it and the signal, which ends the command at that job. -/
def signalEach (signal : Signal) : List Job → Handler Nat
  | [] => pure 0
  | job :: rest => do
    let running ← onHost job.isRunning
    if running then
      signalJob job signal
      let sent ← signalEach signal rest
      pure (sent + 1)
    else signalEach signal rest

/-- `kill [-SIGNAL] [name]`: sends a signal to a job, or to all that are running. -/
def kill (_ : Bool) (arguments : List String) : Handler Unit := do
  match splitSignal arguments with
  | .error text => misused text
  | .ok (signal, rest) =>
    usage (rest.length ≤ 1) "kill [-SIGNAL] [name]"
    let s ← get
    match rest with
    | name :: _ =>
      match s.jobs.find? fun job => job.name == some name with
      | none => fail (noJob name)
      | some job => signalJob job signal
    | [] =>
      let sent ← signalEach signal s.jobs
      if sent = 0 then failed "kill: no running background processes" else pure ()

end ScriptSuite.Programs
