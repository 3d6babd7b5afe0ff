import ScriptSuite.Command.Builtin
import ScriptSuite.Script.Source
import ScriptSuite.Suite.Discovery
import ScriptSuite.Suite.Gathering
import ScriptSuite.Suite.Params
import ScriptSuite.Suite.Result

/-!
Running scripts.

The instructions of a script are run in order up to the first that ends the run. A script
is written back only if its instructions came to their end and an archive file has been
updated. However a run ends, its jobs are ended and its sandbox is removed.
-/

namespace ScriptSuite

/-- What runs scripts: the parameters, and all commands. It is made once for a suite and never
changes, so that scripts that run together share nothing but the host. -/
structure Engine where
  params : RunParams
  registry : Registry

/-- How the instructions of a script end if none of them fails. -/
inductive Halt where
  | completed
  | skipped (reason : String)
  deriving DecidableEq, Repr

/-- How an instruction ends. Only an instruction that goes on is followed by another one. -/
inductive StepEnd where
  | goesOn
  | halts (halt : Halt)
  | fails (e : RunError)
  | panics
  | endless
  deriving DecidableEq, Repr

/-- How the instructions of a script end. -/
inductive ScriptEnd where
  | halts (halt : Halt)
  | fails (line : Option Nat) (e : RunError)
  | panics
  | endless
  deriving DecidableEq, Repr

/-- How the run of a script ends. A run that broke off or never ends has no result of its own. -/
inductive RunEnd where
  | finished (result : ScriptResult)
  | panicked
  | endless
  deriving DecidableEq, Repr

namespace Engine

/-- The engine for some parameters, unless a command is registered more than once. -/
def make (language : PatternLanguage) (params : RunParams) : Except RunError Engine :=
  match (Registry.builtinWith language).addAll params.commands with
  | .ok registry => .ok ⟨params, registry⟩
  | .error name => .error (.collision name)

/-- What an error of a command means for the run, given what the instruction expects.
`isFirst` says that no command has been run before. -/
def judgeError (expectation : Expectation) (isFirst : Bool) (e : CommandError) (s : Session) :
    StepEnd × Session :=
  match e with
  | .failed text =>
    if expectation = .success then (.fails (.command e), s)
    else (.goesOn, s.write ("[failure expected] " ++ text))
  | .stop reason =>
    (.halts .completed, if reason.isEmpty then s else s.write ("stop: " ++ reason))
  | .skip reason =>
    if isFirst then (.halts (.skipped reason), s.write ("skip: " ++ reason))
    else
      (.fails (.command (.usage "skip is only allowed before any other instruction")), s)
  | _ => (.fails (.command e), s)

/-- Runs a command for an instruction, and judges its end by what the instruction expects. The
outcome of a command that has started a job is left to the wait for it. -/
def dispatch (command : Command) (inst : Instruction) (s : Session) : StepEnd × Session :=
  let (arguments, s) := (Session.expandAll inst.arguments).run s
  let isFirst := !s.hasStarted
  let s :=
    { s with hasStarted := true, expectation := inst.expectation, isDeferred := false }
  match (command.run inst.expectation.isNegated arguments).run s with
  | .ok () s =>
    if !s.isDeferred && inst.expectation = .failure then
      (.fails (.command (.failed "unexpected command success")), s)
    else (.goesOn, s)
  | .error (.error e) s =>
    if s.isDeferred then (.fails (.command e), s)
    else judgeError inst.expectation isFirst e s
  | .error .panic s => (.panics, s)
  | .error .endless s => (.endless, s)

/-- Runs an instruction whose conditions hold. The line is logged first, also if there is no such
command; a mark in front of a command that cannot fail is an error of the run. -/
def perform (e : Engine) (inst : Instruction) (s : Session) : StepEnd × Session :=
  let s := s.write ("> " ++ String.ofList (Text.trim inst.text.toList))
  match e.registry.command? inst.name with
  | none => (.fails (.unknownCommand inst.name), s)
  | some command =>
    match inst.expectation.mark? with
    | some mark =>
      if command.isNegatable then dispatch command inst s
      else (.fails (.negation inst.name mark), s)
    | none => dispatch command inst s

/-- Whether the time of a session is up. -/
def isOverdue (s : Session) : Bool × Session :=
  match s.deadline with
  | none => (false, s)
  | some limit =>
    let (now, h) := s.host.time
    (now.reached limit, { s with host := h })

/-- Runs an instruction. The deadline is looked at first, then the conditions are evaluated, and a
line whose conditions do not hold leaves no trace in the log. -/
def step (e : Engine) (inst : Instruction) (s : Session) : StepEnd × Session :=
  match isOverdue s with
  | (true, s) => (.fails (.timeout (e.params.timeout.getD .zero)), s)
  | (false, s) =>
    let searchList := s.environment.value? Session.searchVariable
    match e.params.conditions.allHold s.host searchList inst.conditions with
    | .error tag => (.fails (.unknownCondition tag), s)
    | .ok false => (.goesOn, s)
    | .ok true => e.perform inst s

/-- Runs instructions in order, up to the first that ends the run. Its line is that of the
failure. -/
def runInstructions (e : Engine) : List Instruction → Session → ScriptEnd × Session
  | [], s => (.halts .completed, s)
  | inst :: rest, s =>
    match e.step inst s with
    | (.goesOn, s) => runInstructions e rest s
    | (.halts halt, s) => (.halts halt, s)
    | (.fails err, s) => (.fails (some inst.line) err, s)
    | (.panics, s) => (.panics, s)
    | (.endless, s) => (.endless, s)

/-- Runs the hook of the caller if there is one, and then the instructions of the script. A failure
of the hook has no line. -/
def execute (e : Engine) (s : Session) : ScriptEnd × Session :=
  match e.params.setup with
  | none => e.runInstructions s.script.instructions s
  | some hook =>
    match hook.run s with
    | .ok () s => e.runInstructions s.script.instructions s
    | .error (.error err) s => (.fails none (.command err), s)
    | .error .panic s => (.panics, s)
    | .error .endless s => (.endless, s)

/-- Makes the sandbox of a script, in the folder for sandboxes or that for scratch files of the
host. It is a new folder for every run, also if scripts run together. -/
def makeSandbox (e : Engine) (h : Host) : Except HostError Path × Host :=
  match e.params.workRoot with
  | some root =>
    match h.makeFolders root with
    | (.error err, h) => (.error err, h)
    | (.ok (), h) => h.makeSandbox root
  | none => h.makeSandbox ⟨(h.environment.value? Session.scratchVariable).getD "/tmp"⟩

/-- When the time of a script is up that starts now; nothing if that cannot be
represented. -/
def deadline? (e : Engine) (start : Instant) : Option (Option Instant) :=
  match e.params.timeout with
  | none => some none
  | some limit => (start.plus? limit).map some

/-- What a session is set up with. -/
def options (e : Engine) (deadline : Option Instant) : SessionOptions where
  environment := e.params.environment
  canUpdate := e.params.canUpdate
  deadline := deadline
  waitTimeout := e.params.waitTimeout
  teardownGrace := e.params.teardownGrace
  programs := e.params.programs

/-- Writes a script back whose instructions came to their end, unless no comparison has updated
it, and tells whether it has been written. It is the archive in memory that is written; the file
may have been changed in the meantime. -/
def writeBack (path : Location) (s : Session) : Except HostError Bool × Session :=
  if s.hasUpdated then
    match s.host.write path (Text.bytesOf s.script.toSource) with
    | (.ok (), h) => (.ok true, { s with host := h })
    | (.error e, h) => (.error e, { s with host := h })
  else (.ok false, s)

/-- What a result says of an attempt to write its script back. -/
def recordWrite (r : ScriptResult) : Except HostError Bool → ScriptResult
  | .ok true => { r with isUpdated := true }
  | .ok false => r
  | .error e => r.fail none ("failed to update script: " ++ e.message)

/-- Ends a session. All that is known of its script by then is in the result; the warnings and
the log are complete only when the jobs have been ended. -/
def conclude (r : ScriptResult) (s : Session) : RunEnd × Host :=
  match s.teardown with
  | (false, s) => (.panicked, s.close)
  | (true, s) => (.finished { r with warnings := s.warnings, log := s.log }, s.close)

/-- Runs a script in a session, and sets the result that it has been given. -/
def runSession (e : Engine) (path : Location) (r : ScriptResult) (s : Session) : RunEnd × Host :=
  match e.execute s with
  | (.halts .completed, s) =>
    let (written, s) := writeBack path s
    conclude (recordWrite r written) s
  | (.halts (.skipped reason), s) => conclude (r.skip reason) s
  | (.fails line err, s) => conclude (r.fail line err.message) s
  | (.panics, s) => (.panicked, s.close)
  | (.endless, s) => (.endless, s.close)

/-- Loads a script and sets up its session. If that fails, the run has ended, and the sandbox has
been removed if there was one by then. -/
def prepare (e : Engine) (name : String) (path : Location) (start : Instant) (h : Host) :
    Except (RunEnd × Host) Session :=
  let failed (line : Option Nat) (message : String) : RunEnd :=
    .finished ((ScriptResult.new name path).fail line message)
  match Suite.loadScript h path with
  | .error err => .error (failed err.line? err.message, h)
  | .ok script =>
    match e.makeSandbox h with
    | (.error err, h) => .error (failed none (RunError.sandbox err).message, h)
    | (.ok workDir, h) =>
      match e.deadline? start with
      | none => .error (.panicked, h.removeSandbox workDir)
      | some deadline =>
        match Session.open? script workDir (e.options deadline) h with
        | .error (err, h) =>
          .error (failed none (RunError.sandbox err).message, h.removeSandbox workDir)
        | .ok s => .ok s

/-- Runs a script; its duration is not taken. -/
def runUntimed (e : Engine) (name : String) (path : Location) (start : Instant) (h : Host) :
    RunEnd × Host :=
  match e.prepare name path start h with
  | .error ended => ended
  | .ok s => e.runSession path (.new name path) s

/-- Runs a script, and takes its duration. The deadline counts from the same look at the clock, so
that loading and setting up are part of the limit. -/
def run (e : Engine) (name : String) (path : Location) (h : Host) : RunEnd × Host :=
  let (start, h) := h.time
  match e.runUntimed name path start h with
  | (.finished result, h) =>
    let (now, h) := h.time
    (.finished { result with duration := now.since start }, h)
  | other => other

end Engine
end ScriptSuite
