import ScriptSuite.Suite.Engine

/-!
Running the scripts of a suite.
-/

namespace ScriptSuite

/-- How the run of a suite ends. -/
inductive SuiteEnd where
  /-- Nothing has been run. -/
  | refused (e : RunError)
  | finished (results : List ScriptResult)
  | endless
  deriving DecidableEq, Repr

namespace Suite

/-- A script that is to be run: its name and where it is. -/
abbrev Task := String × Location

/-- The scripts of a suite that are to be run, in the order in which they are found. A filter is
compared with their names, which have no extension. -/
def tasks (params : RunParams) (h : Host) : Except RunError (List Task) :=
  match findScripts h params.target with
  | .error cause => .error (.load (.host params.target cause))
  | .ok paths =>
    let root := params.root h
    let named := paths.map fun path => (path.scriptName root, path)
    .ok <|
      match params.filter with
      | none => named
      | some part => named.filter fun task => Text.occursIn part.toList task.1.toList

/-- The result of a task, nothing if it never ends. A run that broke off counts as a failure of its
own script. -/
def resultOf (task : Task) : RunEnd → Option ScriptResult
  | .finished result => some result
  | .panicked => some (.panicked task.1 task.2)
  | .endless => none

/-- Runs tasks, in turn or together. Together they end in an order that the host decides, and every
result stands at the place of its task all the same. -/
def runTasks (run : Task → Host → RunEnd × Host) (isSerial : Bool) (tasks : List Task)
    (h : Host) : List RunEnd × Host :=
  if isSerial then Gathering.inTurn run tasks h
  else Gathering.together run (h.finishing tasks.length) tasks h

/-- Runs the scripts of a suite. A script that breaks off fails, and changes no other
result. -/
def runScripts (language : PatternLanguage) (params : RunParams) (h : Host) :
    SuiteEnd × Host :=
  match Engine.make language params with
  | .error e => (.refused e, h)
  | .ok engine =>
    match tasks params h with
    | .error e => (.refused e, h)
    | .ok tasks =>
      let (ends, h) := runTasks (fun task => engine.run task.1 task.2) params.isSerial tasks h
      match (tasks.zip ends).mapM fun (task, e) => resultOf task e with
      | some results => (.finished results, h)
      | none => (.endless, h)

def countFailed (results : List ScriptResult) : Nat :=
  (results.filter fun r => !r.hasPassed).length

/-- Runs the scripts of a suite, and fails if one of them does. -/
def execute (language : PatternLanguage) (params : RunParams) (h : Host) :
    Option (Except RunError Unit) × Host :=
  match runScripts language params h with
  | (.refused e, h) => (some (.error e), h)
  | (.endless, h) => (none, h)
  | (.finished results, h) =>
    let failed := countFailed results
    (some (if failed = 0 then .ok () else .error (.scriptsFailed failed results.length)), h)

/-- Runs a single script with the parameters of its suite. -/
def runScript (language : PatternLanguage) (params : RunParams) (path : Location) (h : Host) :
    Except RunError RunEnd × Host :=
  match Engine.make language params with
  | .error e => (.error e, h)
  | .ok engine =>
    let (result, h) := engine.run (path.scriptName (params.root h)) path h
    (.ok result, h)

end Suite
end ScriptSuite
