import ScriptSuite.Host.Image
import ScriptSuite.Tools.Stray

/-!
Programs of the host.

A program is what it does when it is started. Most tools read what they are given, write
all their output and end.
-/

namespace ScriptSuite

/-- What a program does when it is started. -/
abbrev Program := Invocation → Behaviour

/-- What a tool writes before it ends, and the code that it ends with. -/
structure Report where
  stdout : Bytes
  stderr : Bytes
  code : Nat

namespace Report

/-- Nothing but output. -/
def output (data : Bytes) : Report := ⟨data, [], 0⟩

/-- Nothing but a text for output. -/
def text (s : String) : Report := output (Stray.bytesOf s)

def complaint (s : String) (code : Nat) : Report := ⟨[], Stray.bytesOf s, code⟩

/-- Two reports, one after another. A complaint of the first is not forgotten. -/
def append (a b : Report) : Report :=
  ⟨a.stdout ++ b.stdout, a.stderr ++ b.stderr, max a.code b.code⟩

/-- Writes if there is something to write. -/
def writeSome (stream : Stream) (data : Bytes) (next : Behaviour) : Behaviour :=
  if data.isEmpty then next else .write stream data next

/-- Writes a report and ends. -/
def behaviour (r : Report) : Behaviour :=
  writeSome .stdout r.stdout (writeSome .stderr r.stderr (.exit r.code))

end Report

namespace Invocation

/-- The arguments after the name of the program. -/
def rest (i : Invocation) : List String := i.arguments.tail

/-- The arguments that are options, and those that are not. An argument is an option if
it starts with a dash and is more than a dash; after `--` none is. -/
def splitOptions : List String → List String × List String
  | [] => ([], [])
  | a :: more =>
    if a = "--" then ([], more)
    else
      let (options, names) := splitOptions more
      if a.startsWith "-" && a != "-" then (a :: options, names) else (options, a :: names)

end Invocation

namespace Tools

/-- A program that says what it has to say and ends. -/
def telling (f : Invocation → Report) : Program := fun i => (f i).behaviour

/-- A program that looks at the files. -/
def reading (f : Invocation → Node → Report) : Program := fun i =>
  .change id fun files => (f i files).behaviour

/-- A program that changes the files. -/
def changing (f : Invocation → Node → Node × Report) : Program := fun i =>
  .change (fun files => (f i files).1) fun files => (f i files).2.behaviour

/-- Where a tool tells more about itself. -/
def hint (tool : String) : String :=
  "Try '" ++ tool ++ " --help' for more information.\n"

/-- The complaint of a tool that needs more arguments. -/
def missingOperand (tool what : String) : Report :=
  .complaint (tool ++ ": missing " ++ what ++ "\n" ++ hint tool) 1

/-- The words for what goes wrong with a file. -/
def words : HostError → String
  | .refused r => r.words
  | e => e.message

/-- What a file holds, or its complaint. -/
def contentOf (files : Node) (i : Invocation) (name : String) : Except HostError Bytes :=
  match files.nodeFrom i.folder (Stray.locate name) with
  | .error e => .error e
  | .ok (.folder ..) => .error (.refused .isFolder)
  | .ok (.file content) => .ok content.data

/-- Folds a change of files over names. -/
def overNames (f : Node → String → Node × Report) (files : Node) (names : List String) :
    Node × Report :=
  names.foldl (fun (files, report) name =>
    let (files, more) := f files name
    (files, report.append more)) (files, ⟨[], [], 0⟩)

end Tools
end ScriptSuite
