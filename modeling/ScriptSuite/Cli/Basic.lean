import ScriptSuite.Cli.Report
import ScriptSuite.Cli.Request
import ScriptSuite.Command.Builtin
import ScriptSuite.Regex.Language
import ScriptSuite.Suite.Basic
import ScriptSuite.Suite.ConfigText
import ScriptSuite.Suite.Schema

/-!
The command line: what is printed for what is asked, and with which code it ends.
-/

namespace ScriptSuite.Cli

/-- What a command line prints, and the code with which it ends. A code of two stands for a command
line that is not understood, and is given before anything else is done. -/
structure Answer where
  code : Nat
  stdout : String
  stderr : String
  deriving DecidableEq, Repr

namespace Answer

def ok (stdout : String) : Answer := ⟨0, stdout, ""⟩

def failure (line : String) : Answer := ⟨1, "", line ++ "\n"⟩

def misuse : Answer := ⟨2, "", "error: invalid arguments, try '--help'\n"⟩

/-- What is left of a program that breaks off while it shows results. -/
def broken (reason : String) : Answer := ⟨101, "", reason ++ "\n"⟩

/-- Prints a text to the error output first. -/
def after (a : Answer) (stderr : String) : Answer := { a with stderr := stderr ++ a.stderr }

end Answer

/-- The report on a path without scripts. -/
def nothingAt (path : Path) : Answer := .failure ("No scripts found at: " ++ path.text)

/-! ### Runs -/

/-- The parameters of a run, with those of the configuration and, over them, those that are
asked for. -/
def paramsOf (r : RunRequest) (c : Option SuiteConfig) (h : Host) : RunParams :=
  let base := RunParams.ofTarget r.path
  let configured :=
    match c with
    | some c => base.withConfig c h
    | none => base
  { configured with
    workRoot :=
      match r.workRoot with
      | some text => some ((WorkRoot.ofText text).resolve (configured.root h) h.clock.now)
      | none => configured.workRoot
    timeout :=
      match r.timeout with
      | some n => some (.ofSeconds n)
      | none => configured.timeout
    canUpdate := configured.canUpdate || r.canUpdate
    isSerial := configured.isSerial || r.isSerial
    filter := r.filter }

/-- Shows results. A JSON value cannot hold a location without a text, and nobody sees to it that
there is none. -/
def show_ (r : RunRequest) (total : Duration) (results : List ScriptResult) : Answer :=
  let shown (text : String) : Answer := ⟨if countOf .failed results = 0 then 0 else 1, text, ""⟩
  match r.format with
  | .human => shown (human r.isVerbose results)
  | .json =>
    match json? results with
    | some text => shown text
    | none => .broken "path contains invalid UTF-8 characters"
  | .junit => shown (junit total results)

/-- Runs the scripts of a path; nothing if that never ends. -/
def run (r : RunRequest) (h : Host) : Option Answer × Host :=
  if !h.doesExist r.path then (some (nothingAt r.path), h)
  else
    match SuiteConfig.load h ((RunParams.ofTarget r.path).root h) with
    | .error e => (some (.failure ("Error loading suite config: " ++ e.message)), h)
    | .ok config =>
      let params := paramsOf r config h
      let note :=
        match r.filter with
        | some text =>
          if r.isVerbose then "Filtering scripts by: " ++ Text.quoted text ++ "\n" else ""
        | none => ""
      let started := h.clock.now
      match Suite.runScripts Regex.language params h with
      | (.refused e, h) => (some ((Answer.failure ("Error: " ++ e.message)).after note), h)
      | (.endless, h) => (none, h)
      | (.finished [], h) => (some ((nothingAt r.path).after note), h)
      | (.finished results, h) =>
        let total : Duration := ⟨h.clock.now.nanoseconds - started.nanoseconds⟩
        (some ((show_ r total results).after note), h)

/-! ### Checks -/

/-- What a check says about a script: lines for the output, and lines for the error
output. -/
def check (h : Host) (path : Location) : List String × List String :=
  match Suite.loadScript h path with
  | .error e => ([], ["✗ " ++ e.message])
  | .ok script =>
    let builtins := Registry.builtinWith Regex.language
    let unknown := script.instructions.filter fun i => !builtins.has i.name
    (("✓ " ++ path.shown ++ " (" ++ toString script.instructions.length ++ " instructions, "
        ++ toString script.files.length ++ " files)")
      :: unknown.map fun i =>
        "    warning: line " ++ toString i.line ++ ": " ++ Text.quoted i.name
          ++ " is not a built-in command", [])

/-- Reads the scripts of a path without running them. A command that is not built in is worth a
warning only, since the caller of the suite may add it. -/
def validate (path : Path) (h : Host) : Answer :=
  match Suite.findScripts h path with
  | .error e => .failure ("Error finding scripts: " ++ e.message)
  | .ok [] => nothingAt path
  | .ok paths =>
    let checks := paths.map (check h)
    let stdout := unlines (checks.flatMap Prod.fst)
    let stderr := unlines (checks.flatMap Prod.snd)
    let errors := (checks.filter fun c => !c.2.isEmpty).length
    if errors > 0 then
      ⟨1, stdout, stderr ++ "\n" ++ toString errors ++ " script(s) failed validation\n"⟩
    else ⟨0, stdout ++ "\nAll " ++ toString paths.length ++ " script(s) valid\n", stderr⟩

/-! ### Examples -/

/-- The example of a script. -/
def example_ : String :=
  unlines
    [ "# Lines starting with '#' are comments.",
      "# The script runs in a fresh sandbox holding the files below.",
      "",
      "exec echo hello world",
      "stdout 'hello world'",
      "! stderr .",
      "",
      "exec cat greeting.txt",
      "cmp stdout greeting.txt",
      "",
      "-- greeting.txt --",
      "hello from the archive" ]

/-- Makes an example of a script where nothing is yet. -/
def makeExample (path : Path) (h : Host) : Answer × Host :=
  let refused (e : HostError) : Answer := .failure ("Error: " ++ e.message)
  if h.doesExist path then
    (.failure ("Error: file already exists: " ++ path.text), h)
  else
    let (made, h) : Except HostError Unit × Host :=
      match path.parent? with
      | some parent => if parent.text = "" then (.ok (), h) else h.makeFolders parent
      | none => (.ok (), h)
    match made with
    | .error e => (refused e, h)
    | .ok () =>
      match h.write path (Text.bytesOf example_) with
      | (.error e, h) => (refused e, h)
      | (.ok (), h) => (.ok ("Created: " ++ path.text ++ "\n"), h)

/-! ### Command lines -/

def helpText : String :=
  unlines
    [ "Script-driven integration tests for command-line programs",
      "",
      "scriptest run [-o human|json|junit] [-f TEXT] [-v] [-u] [--serial]",
      "              [--timeout SECONDS] [--workdir-root FOLDER] PATH",
      "scriptest validate PATH",
      "scriptest init [PATH]",
      "scriptest schema" ]

/-- Does what a command line asks for; there is no answer if that never ends. -/
def perform (request : Request) (h : Host) : Option Answer × Host :=
  match request with
  | .run r => run r h
  | .validate path => (some (validate path h), h)
  | .init path =>
    let (answer, h) := makeExample path h
    (some answer, h)
  | .schema => (some (.ok (SuiteConfig.schema.pretty ++ "\n")), h)
  | .help => (some (.ok helpText), h)
  | .version => (some (.ok "scriptest 0.1.0\n"), h)

def answer (words : List String) (h : Host) : Option Answer × Host :=
  match Request.ofWords? words with
  | some request => perform request h
  | none => (some .misuse, h)

end ScriptSuite.Cli
