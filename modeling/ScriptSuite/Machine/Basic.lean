import ScriptSuite.Host.Processes
import ScriptSuite.Shell.Machine
import ScriptSuite.Tools.Runner

/-!
A host with a shell and common tools.

The image of a tool is its name after the mark of native programs. Other images with that
mark are of no known format.
-/

namespace ScriptSuite.Machine

/-- The image of a program. -/
def imageOf (name : String) : Bytes := Node.nativeMark ++ Text.bytesOf name

/-- The names of the shell. -/
def shells : List String := ["sh", "dash", "bash"]

/-- The name of the runner as a program. -/
def runnerName : String := "runner"

/-- Gives a program another environment: assignments, then a command line. -/
def env (load : Invocation → Except Refusal Behaviour) : Program := fun i =>
  let (cleared, rest) :=
    match i.rest with
    | "-i" :: rest => (true, rest)
    | rest => (false, rest)
  let assignments := rest.takeWhile fun a => a.toList.contains '='
  let line := rest.drop assignments.length
  let base : Environment := if cleared then [] else i.environment
  let environment := base.putAll (assignments.filterMap Variable.assignment?)
  match line with
  | [] =>
    (Report.text
      (String.join (environment.map fun entry => entry.1 ++ "=" ++ entry.2 ++ "\n"))).behaviour
  | name :: _ =>
    .change id fun files =>
      let started : Except Refusal Behaviour := do
        let (image, arguments) ← files.findImage i.folder environment name line
        load ⟨image, arguments, environment, i.folder, i.stdin⟩
      match started with
      | .ok behaviour => behaviour
      | .error r =>
        let code := if r = .noEntry then 127 else 126
        (Report.complaint ("env: '" ++ name ++ "': " ++ r.words ++ "\n") code).behaviour

/-- What a program does when it is started, shells within shells up to a depth. -/
def loadUpTo (runner : Program) : (depth : Nat) → Invocation → Except Refusal Behaviour
  | 0, _ => .error .badFormat
  | depth + 1, i =>
    let name := Text.stringOf (i.image.drop Node.nativeMark.length)
    if !Node.nativeMark.isPrefixOf i.image then .error .badFormat
    else if shells.contains name then .ok (Shell.program (loadUpTo runner depth) i)
    else if name = "env" then .ok (env (loadUpTo runner depth) i)
    else if name = runnerName then .ok (runner i)
    else
      match List.lookup name Tools.table with
      | some program => .ok (program i)
      | none => .error .badFormat

/-- How deep shells may start shells. -/
def depthLimit : Nat := 32

def folderOf (entries : List (EntryName × Node)) : Node :=
  .folder 0o755 (entries.foldr (fun entry l => .consEntry entry.1 entry.2 l) .empty)

def programFile (name : String) : EntryName × Node :=
  (.text name.toList, .file ⟨imageOf name, 0o755, false⟩)

/-- The folder of the programs. -/
def programs : Node :=
  folderOf (("env" :: shells ++ Tools.table.map Prod.fst).map programFile)

def nullDevice : Node := .file ⟨[], 0o666, true⟩

/-- The files of a new machine. -/
def files : Node :=
  folderOf
    [ ("bin".toList, programs),
      ("dev".toList, folderOf [("null".toList, nullDevice)]),
      ("tmp".toList, .folder 0o1777 .empty),
      ("usr".toList, folderOf [("bin".toList, programs)]) ]

/-- How long it takes to look at the clock or at a process. -/
def lookTime : Duration := ⟨1000⟩

/-- A new machine, with a runner at a path. -/
def host (runner : Program) (executable : Path) (environment : Environment)
    (home : List (List Char)) (now : Instant) : Host where
  files :=
    let steps := executable.components.filterMap fun c =>
      match c with
      | .name name => some name
      | _ => none
    match files.makeFoldersFrom [] (steps.dropLast.map .name) with
    | .ok root => root.put (programFile runnerName).2 steps
    | .error _ => files
  clock := ⟨now, fun _ => lookTime.nanoseconds, 0⟩
  processes := []
  pipes := []
  environment := environment
  home := home
  executable := executable
  load := loadUpTo runner depthLimit
  names := 0
  patience := 1000000
  finishing := List.range
  journal := []

end ScriptSuite.Machine
