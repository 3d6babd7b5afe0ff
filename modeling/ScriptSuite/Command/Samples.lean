import ScriptSuite.Command.Basic
import ScriptSuite.Json.Basic

/-!
Commands that a suite may add to the built-in ones.
-/

namespace ScriptSuite.Samples

open Handler

/-- The variable that `setSpecialVal` sets. -/
def specialName : String := "SPECIALVAL"

/-- What `setSpecialVal` sets. -/
def specialValue : String := "42"

def setSpecial (_ : Bool) (_ : List String) : Handler Unit :=
  modify fun s => s.setVariable specialName specialValue

/-- Checks that variable. -/
def ensureSpecial (_ : Bool) (arguments : List String) : Handler Unit := do
  let want := arguments.headD specialValue
  let s ← get
  let got := s.valueOf specialName
  if got = want then pure ()
  else
    failed (specialName ++ " is " ++ Text.quoted got ++ ", want " ++ Text.quoted want)

/-- Interrupts the only job. -/
def interrupt (_ : Bool) (arguments : List String) : Handler Unit := do
  if !arguments.isEmpty then misused "interrupt takes no arguments"
  let s ← get
  match s.jobs with
  | [job] => tryHost JobFault.interrupt (job.signal .interrupt)
  | jobs =>
    misused ("interrupt needs exactly one background process, found " ++ toString jobs.length)

/-- How often `waitfile` looks. -/
def looks : Nat := 500

/-- The time between two looks of `waitfile`. -/
def lookInterval : Duration := .ofMilliseconds 5

def lookFor (path : Path) : (looks : Nat) → Host.Act Bool
  | 0, h => (false, h)
  | looks + 1, h =>
    if h.doesExist path then (true, h) else lookFor path looks (h.sleep lookInterval)

/-- Waits until a file is there. -/
def waitFile (_ : Bool) : List String → Handler Unit
  | [name] => do
    let path ← resolve name
    if ← onHost (lookFor path looks) then pure ()
    else failed ("timed out waiting for " ++ name ++ " to appear")
  | _ => usage false "waitfile file"

/-- The entries of a listing and of the folders in it, each with its path. -/
def entryLines (lead : String) : Listing → List String
  | .empty => []
  | .file name content rest =>
    (lead ++ String.ofList name.shown ++ " " ++ toString content.data.length) :: entryLines lead rest
  | .folder name _ inside rest =>
    let path := lead ++ String.ofList name.shown ++ "/"
    path :: entryLines path inside ++ entryLines lead rest

/-- Logs what the sandbox holds. -/
def tree (_ : Bool) (_ : List String) : Handler Unit := do
  let s ← get
  let lines :=
    match s.host.node s.workDir with
    | .ok (.folder _ inside) => entryLines "" inside
    | _ => []
  (lines.mergeSort fun a b => !(b < a)).forM fun line => log line

def boom (_ : Bool) (_ : List String) : Handler Unit :=
  throw .panic

def errorOf (kind text : String) : CommandError :=
  match kind with
  | "usage" => .usage text
  | "io" => .host (.other text)
  | "stop" => .stop text
  | "skip" => .skip text
  | "exited" => .job (.exited text)
  | _ => .failed text

/-- The error that arguments ask for. -/
def errorOfArguments (arguments : List String) : CommandError :=
  errorOf (arguments.headD "") (arguments.tail.headD "")

/-- Ends with an error. -/
def halt (_ : Bool) (arguments : List String) : Handler Unit :=
  fail (errorOfArguments arguments)

/-- Logs its arguments. -/
def showArguments (negated : Bool) (arguments : List String) : Handler Unit :=
  log ("neg=" ++ toString negated ++ " " ++ (JsonValue.strings arguments).compact)

/-- The command of that name; any other name shows its arguments. -/
def command (name : String) : Command :=
  match name with
  | "setSpecialVal" => ⟨true, setSpecial⟩
  | "ensureSpecialVal" => ⟨true, ensureSpecial⟩
  | "interrupt" => ⟨false, interrupt⟩
  | "waitfile" => ⟨true, waitFile⟩
  | "tree" => ⟨true, tree⟩
  | "boom" => ⟨true, boom⟩
  | "halt" => ⟨true, halt⟩
  | "rigid" => ⟨false, showArguments⟩
  | _ => ⟨true, showArguments⟩

end ScriptSuite.Samples
