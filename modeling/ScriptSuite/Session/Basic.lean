import ScriptSuite.Host.Files
import ScriptSuite.Job.Basic
import ScriptSuite.Script.Basic
import ScriptSuite.Session.Error

/-!
Sessions: the state that the commands of a script share.

A session has a sandbox, a folder of its own on the host that is filled from the archive
of the script. What commands change is the session and nothing else.
-/

namespace ScriptSuite

/-- What a session is set up with. -/
structure SessionOptions where
  /-- Variables that go before those of the host. -/
  environment : Environment
  canUpdate : Bool
  deadline : Option Instant
  waitTimeout : Duration
  teardownGrace : Duration
  /-- The programs that the runner itself stands in for. -/
  programs : List String

/-- The state of a run: what the commands of a script see and change. The host is part of it, so
that whatever a command does to files and processes is a change of the session too. The archive in
memory and the files of the sandbox go apart as soon as a command writes to either. -/
structure Session where
  host : Host
  /-- The script, with the archive as updates have left it. -/
  script : Script
  /-- The sandbox. -/
  workDir : Path
  /-- The folder that relative paths start from. -/
  folder : Path
  environment : Environment
  /-- The jobs that have not been waited for, oldest first. -/
  jobs : List Job
  /-- What the last program wrote that was waited for. -/
  stdout : String
  stderr : String
  /-- The input of the next program. -/
  stdin : Option Bytes
  log : String
  /-- How many unique names have been given out. -/
  unique : Nat
  /-- Jobs that would not die. -/
  warnings : List String
  /-- Whether an archive file may be updated. -/
  canUpdate : Bool
  /-- Whether an archive file has been updated. -/
  hasUpdated : Bool
  /-- The updates of the archive, oldest first. -/
  updates : List Update
  deadline : Option Instant
  waitTimeout : Duration
  teardownGrace : Duration
  programs : List String
  /-- Whether a command has been run. -/
  hasStarted : Bool
  /-- What the running instruction expects. -/
  expectation : Expectation
  /-- Whether the outcome of the running instruction is left to a later `wait`. -/
  isDeferred : Bool

namespace Session

/-! ### Names of the environment -/

def workVariable : String := "WORK"
def folderVariable : String := "PWD"
def homeVariable : String := "HOME"
def scratchVariable : String := "TMPDIR"
def nullVariable : String := "devnull"
def searchVariable : String := "PATH"

/-- The home directory that no program finds. -/
def noHome : String := "/no-home"

def nullDevice : String := "/dev/null"

/-- The folder for scratch files below a sandbox. -/
def scratchFolder : String := ".tmp"

/-- The variables that a session starts with: those of the host, then those that tell of the
sandbox, then those that the caller has set. Later ones win, so that a caller may set even the
folder of the sandbox. -/
def startEnvironment (base : Environment) (workDir scratch : Path) (extra : Environment) :
    Environment :=
  (base.putAll
    [(workVariable, workDir.text), (folderVariable, workDir.text), (homeVariable, noHome),
      (scratchVariable, scratch.text), (nullVariable, nullDevice)]).putAll extra

/-! ### Setting up -/

/-- Whether a step of an archive name stays below the folder it starts from. -/
def staysBelow : Component → Bool
  | .here | .name _ => true
  | .root | .up => false

/-- The path of an archive file below a sandbox. Names with steps up are refused even if they come
back below the sandbox in the end, and so are absolute names. -/
def sandboxPath (root : Path) (name : String) : Except HostError Path :=
  if (Path.mk name).components.all staysBelow then .ok (root.join name)
  else .error (.other ("archive file " ++ Text.quoted name ++ " is outside the sandbox"))

/-- Writes an archive file into a sandbox, and makes the folders above it. -/
def writeArchiveFile (root : Path) (file : ArchiveFile) (h : Host) :
    Except HostError Unit × Host :=
  match sandboxPath root file.name with
  | .error e => (.error e, h)
  | .ok path =>
    match path.parent? with
    | none => h.write path file.data
    | some parent =>
      match h.makeFolders parent with
      | (.error e, h) => (.error e, h)
      | (.ok (), h) => h.write path file.data

/-- Writes archive files one after another, up to the first that cannot be written. What has been
written until then stays; the whole sandbox is removed in that case. -/
def writeArchive (root : Path) : List ArchiveFile → Host → Except HostError Unit × Host
  | [], h => (.ok (), h)
  | file :: rest, h =>
    match writeArchiveFile root file h with
    | (.error e, h) => (.error e, h)
    | (.ok (), h) => writeArchive root rest h

/-- The session of a script in a sandbox whose files have been written. -/
def start (script : Script) (workDir scratch : Path) (options : SessionOptions) (h : Host) :
    Session where
  host := h
  script := script
  workDir := workDir
  folder := workDir
  environment := startEnvironment h.environment workDir scratch options.environment
  jobs := []
  stdout := ""
  stderr := ""
  stdin := none
  log := ""
  unique := 0
  warnings := []
  canUpdate := options.canUpdate
  hasUpdated := false
  updates := []
  deadline := options.deadline
  waitTimeout := options.waitTimeout
  teardownGrace := options.teardownGrace
  programs := options.programs
  hasStarted := false
  expectation := .success
  isDeferred := false

/-- Sets up the session of a script in a sandbox: the files of the archive, and a folder for scratch
files. If that fails there is no session, and the host is given back as the attempt has left it. -/
def open? (script : Script) (workDir : Path) (options : SessionOptions) (h : Host) :
    Except (HostError × Host) Session :=
  match writeArchive workDir script.files h with
  | (.error e, h) => .error (e, h)
  | (.ok (), h) =>
    let scratch := workDir.join scratchFolder
    match h.makeFolders scratch with
    | (.error e, h) => .error (e, h)
    | (.ok (), h) => .ok (start script workDir scratch options h)

/-! ### Variables and paths -/

/-- The value of a variable, nothing if it is not set. -/
def valueOf (s : Session) (name : String) : String :=
  (s.environment.value? name).getD ""

def setVariable (s : Session) (name value : String) : Session :=
  { s with environment := s.environment.put name value }

def dropVariable (s : Session) (name : String) : Session :=
  { s with environment := s.environment.remove name }

/-- Makes a folder the one that relative paths start from. The variable for it changes along, so
that the programs that are started see the same folder. -/
def enter (s : Session) (folder : Path) : Session :=
  { s.setVariable folderVariable folder.text with folder := folder }

/-- The path that a name denotes, seen from the folder of the session. Steps up are taken back in
the text, without a look at the host, so that the result has none. -/
def resolve (s : Session) (name : String) : Path :=
  (s.folder.join name).clean

/-! ### The log -/

/-- A text with a line feed at its end. -/
def asLine (text : String) : String :=
  if Text.endsWithFeed text.toList then text else text ++ "\n"

/-- Adds a text to the log. -/
def write (s : Session) (text : String) : Session :=
  { s with log := s.log ++ asLine text }

/-- Adds the output of a program to the log. -/
def writeOutput (s : Session) (stdout stderr : String) : Session :=
  let section_ (s : Session) (label text : String) : Session :=
    if text.isEmpty then s
    else ({ s with log := s.log ++ "[" ++ label ++ "]\n" }).write text
  section_ (section_ s "stdout" stdout) "stderr" stderr

/-- Keeps what a program has written for later commands. -/
def setOutput (s : Session) (stdout stderr : String) : Session :=
  { s with stdout := stdout, stderr := stderr }

/-! ### Names of files -/

/-- The name that stands for the output of the last program. -/
def stdoutName : String := "stdout"

/-- The name that stands for the error output of the last program. -/
def stderrName : String := "stderr"

/-- Whether a name stands for an output and not for a file. -/
def isOutputName (name : String) : Bool :=
  name == stdoutName || name == stderrName

/-- The text of a file, or of an output. A file is read leniently: bytes that are no text become
marks, and different files may have the same text. -/
def textOfFile (s : Session) (name : String) : Except CommandError String :=
  if name = stdoutName then .ok s.stdout
  else if name = stderrName then .ok s.stderr
  else
    match s.host.read (s.resolve name) with
    | .ok data => .ok (Text.stringOf data)
    | .error e => .error (.failed ("cannot read " ++ name ++ ": " ++ e.message))

/-- The name that an archive file below the sandbox has: its steps with single slashes between them.
A file that is called otherwise in the archive is not found by it. -/
def archiveName (steps : List Component) : String :=
  String.ofList (Text.joinWith ['/'] (steps.map Component.text))

/-- The archive file that a name denotes, if the file in the sandbox still holds what the
archive holds. -/
def goldenName? (s : Session) (name : String) : Option String :=
  let path := s.resolve name
  match path.below? s.workDir with
  | none => none
  | some steps =>
    let entry := archiveName steps
    match s.script.file? entry, s.host.read path with
    | some file, .ok data => if data = file.data then some entry else none
    | _, _ => none

/-! ### Substitution -/

/-- The value of a variable, or of a name that is not one: a slash, a colon, a dollar sign,
the folder of the session, and a name that has not been given out before. -/
def lookup (name : String) : StateM Session (Option String) := do
  let s ← get
  match name with
  | "/" => pure (some "/")
  | ":" => pure (some ":")
  | "$" => pure (some "$")
  | "@cwd" => pure (some s.folder.text)
  | "@unique" => do
    set { s with unique := s.unique + 1 }
    pure (some ("u" ++ toString (s.unique + 1)))
  | _ => pure (s.environment.value? name)

def expand (w : Word) : StateM Session String :=
  w.expand lookup

/-- The arguments that words stand for, from left to right. -/
def expandAll : List Word → StateM Session (List String)
  | [] => pure []
  | w :: rest => do
    let head ← expand w
    let tail ← expandAll rest
    pure (head :: tail)

/-! ### The end -/

/-- Ends the jobs one after another. A job that does not end leaves a warning, and the
others are ended all the same. A point in time that cannot be represented ends it all. -/
def endJobs (grace : Duration) : List Job → List String → Host → Option (List String) × Host
  | [], warnings, h => (some warnings, h)
  | job :: rest, warnings, h =>
    match job.terminate grace h with
    | (.ok (), h) => endJobs grace rest warnings h
    | (.error (.error e), h) => endJobs grace rest (warnings ++ [e.message]) h
    | (.error _, h) => (none, h)

/-- Ends all jobs. Nothing is left of them but warnings. Fails if a deadline cannot be
represented. -/
def teardown (s : Session) : Bool × Session :=
  match endJobs s.teardownGrace s.jobs s.warnings s.host with
  | (some warnings, h) => (true, { s with jobs := [], warnings := warnings, host := h })
  | (none, h) => (false, { s with jobs := [], host := h })

/-- The host after the end of a session. The jobs are ended first, for a job that runs might still
write to the sandbox while that is removed. -/
def close (s : Session) : Host :=
  let s := s.teardown.2
  s.host.removeSandbox s.workDir

end Session
end ScriptSuite
