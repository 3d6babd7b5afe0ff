import ScriptSuite.Cli.Basic
import ScriptSuite.Machine.Basic

/-!
The program.

The paths that it works on are read from the standard input, one a line; what stands there
is put on a machine, the command line is answered there, and the files below the current
folder that have changed are written back.
-/

namespace ScriptSuite.Program

/-- The files of a listing below a folder, with their locations. -/
def filesIn (folder : Location) : Listing → List (Location × Bytes)
  | .empty => []
  | .file name content rest => (folder.child name, content.data) :: filesIn folder rest
  | .folder name _ inside rest => filesIn (folder.child name) inside ++ filesIn folder rest

/-- The files below a folder that another host does not hold so. Files without a path are passed
over, since there is no way to write them outside. -/
def changedFiles (folder : Path) (old new : Host) : List (Path × Bytes) :=
  match new.node folder with
  | .ok (.folder _ inside) =>
    (filesIn folder inside).filterMap fun (file, data) =>
      match file with
      | .below .. => none
      | .text path =>
        match old.read path with
        | .ok former => if former = data then none else some (path, data)
        | .error _ => some (path, data)
  | _ => []

/-- Puts a file on a host, in folders that are made for it. -/
def putFile (h : Host) (path : Path) (data : Bytes) : Host :=
  let h :=
    match path.parent? with
    | some parent => (h.makeFolders parent).2
    | none => h
  (h.write path data).2

/-- Puts what stands at a path outside on a host. -/
def fetch (h : Host) (path : String) : IO Host := do
  try
    let data ← IO.FS.readBinFile path
    return putFile h ⟨path⟩ data.toList
  catch _ => return (h.makeFolders ⟨path⟩).2

/-- The lines of a stream, without those that are empty. -/
partial def readPaths (stream : IO.FS.Stream) (paths : List String) : IO (List String) := do
  let line ← stream.getLine
  if line.isEmpty then return paths.reverse
  let path := String.ofList (Text.trim line.toList)
  readPaths stream (if path.isEmpty then paths else path :: paths)

/-- The value of a variable outside, if it has one. -/
def fetchVariable (name : String) : IO Environment := do
  match ← IO.getEnv name with
  | some value => return [(name, value)]
  | none => return []

/-- The names on the way from the root to a folder. -/
def namesOf (path : Path) : List (List Char) :=
  path.components.filterMap fun c =>
    match c with
    | .name name => name.text?
    | _ => none

/-- The machine on which command lines are answered. -/
def machine : IO Host := do
  let folder : Path := ⟨(← IO.currentDir).toString⟩
  let environment := (← fetchVariable "PATH") ++ (← fetchVariable "TMPDIR")
  let now : Instant := ⟨(← IO.monoNanosNow)⟩
  let h := Machine.host (Tools.runner []) ⟨"/bin/scriptest"⟩ environment (namesOf folder) now
  let h := (h.makeFolders folder).2
  (← readPaths (← IO.getStdin) []).foldlM fetch h

/-- Writes a file outside. -/
def store (file : Path × Bytes) : IO Unit := do
  if let some parent := file.1.parent? then
    IO.FS.createDirAll parent.text
  IO.FS.writeBinFile file.1.text ⟨file.2.toArray⟩

/-- Answers a command line, and says with which code the program ends. -/
def answerWith (words : List String) : IO UInt32 := do
  let old ← machine
  let (answer, new) := Cli.answer words old
  (changedFiles ⟨"."⟩ old new).forM store
  match answer with
  | some answer =>
    (← IO.getStdout).putStr answer.stdout
    (← IO.getStderr).putStr answer.stderr
    return answer.code.toUInt32
  | none =>
    (← IO.getStderr).putStrLn "the run does not end"
    return 1

end ScriptSuite.Program

/-- Answers the command line of the program. -/
def main (words : List String) : IO UInt32 :=
  ScriptSuite.Program.answerWith words
