import ScriptSuite.Command.Basic
import ScriptSuite.Suite.Conditions
import ScriptSuite.Suite.Config

/-!
What a run of scripts is given.
-/

namespace ScriptSuite

/-- What a run of scripts is given. The commands and the hook may be any functions on sessions, and
what is proved of runs says which of them it needs to be well-behaved. -/
structure RunParams where
  /-- The folder of the scripts, or a single script. -/
  target : Path
  /-- Commands that are added to the built-in ones. -/
  commands : List (String × Command)
  conditions : Conditions
  /-- The programs that the runner itself stands in for. -/
  programs : List String
  /-- The folder for sandboxes, that of the system if there is none. -/
  workRoot : Option Path
  canUpdate : Bool
  /-- The limit for a script. -/
  timeout : Option Duration
  waitTimeout : Duration
  teardownGrace : Duration
  environment : Environment
  /-- What is done to each session before its first instruction. -/
  setup : Option (Handler Unit)
  isSerial : Bool
  /-- Only scripts are run whose names hold this text. -/
  filter : Option String

namespace RunParams

/-- How long jobs are waited for if nothing else is said. -/
def defaultWaitTimeout : Duration := .ofSeconds 10

/-- How long a killed job may take to end if nothing else is said. -/
def defaultTeardownGrace : Duration := .ofSeconds 5

/-- The parameters for the scripts of a folder, or for a single one. -/
def ofTarget (target : Path) : RunParams where
  target := target
  commands := []
  conditions := .none
  programs := []
  workRoot := none
  canUpdate := false
  timeout := none
  waitTimeout := defaultWaitTimeout
  teardownGrace := defaultTeardownGrace
  environment := []
  setup := none
  isSerial := false
  filter := none

/-- The folder of the scripts. For a single script it is the folder above, so that the configuration
of its suite applies to it as well. -/
def root (p : RunParams) (h : Host) : Path :=
  if h.isFile p.target then (p.target.parent?).getD ⟨"."⟩ else p.target

/-- The parameters with a configuration. Variables and tags that have been set win over
it. -/
def withConfig (p : RunParams) (c : SuiteConfig) (h : Host) : RunParams where
  target := p.target
  commands := p.commands
  conditions :=
    c.conditions.foldl (fun acc entry =>
      if acc.isDefined entry.1 then acc else acc.define entry.1 entry.2) p.conditions
  programs := p.programs
  workRoot :=
    match c.workRoot with
    | some w => some (w.resolve (p.root h) h.clock.now)
    | none => p.workRoot
  canUpdate := p.canUpdate || c.canUpdate
  timeout :=
    match c.timeout with
    | some n => some (.ofSeconds n)
    | none => p.timeout
  waitTimeout :=
    match c.waitTimeout with
    | some n => .ofSeconds n
    | none => p.waitTimeout
  teardownGrace := p.teardownGrace
  environment := p.environment.putMissing c.environment
  setup := p.setup
  isSerial := p.isSerial || c.isSerial
  filter := p.filter

/-- The text that shows a value that need not be there. -/
def describeOption (text : Option String) : String :=
  match text with
  | some text => "Some(" ++ text ++ ")"
  | none => "None"

/-- Entries between braces. -/
def describeSet (entries : List String) : String :=
  "\x7b" ++ ", ".intercalate entries ++ "\x7d"

/-- The text that shows the parameters. -/
def describe (p : RunParams) : String :=
  let fields : List (String × String) :=
    [ ("dir", Text.quoted p.target.text),
      ("commands", Text.quotedList ", " (p.commands.map Prod.fst)),
      ("conditions", "Conditions \x7b custom: "
        ++ describeSet (p.conditions.defined.map fun (tag, value) =>
            Text.quoted tag ++ ": " ++ toString value)
        ++ " \x7d"),
      ("programs", describeSet (p.programs.map Text.quoted)),
      ("workdir_root", describeOption (p.workRoot.map fun path => Text.quoted path.text)),
      ("update", toString p.canUpdate),
      ("timeout", describeOption (p.timeout.map Duration.exact)),
      ("wait_timeout", p.waitTimeout.exact),
      ("teardown_grace", p.teardownGrace.exact),
      ("serial", toString p.isSerial),
      ("filter", describeOption (p.filter.map Text.quoted)) ]
  "RunParams \x7b "
    ++ ", ".intercalate (fields.map fun (name, value) => name ++ ": " ++ value) ++ ", .. \x7d"

end RunParams
end ScriptSuite
