import ScriptSuite.Cli.Arguments
import ScriptSuite.Path.Basic
import ScriptSuite.Text.Number

/-!
What a command line asks for.
-/

namespace ScriptSuite.Cli

/-- The forms in which results are shown. -/
inductive Format where
  | human
  | json
  | junit
  deriving DecidableEq, Repr

def Format.ofName? (name : String) : Option Format :=
  match name with
  | "human" => some .human
  | "json" => some .json
  | "junit" => some .junit
  | _ => none

structure RunRequest where
  path : Path
  format : Format
  filter : Option String
  isVerbose : Bool
  canUpdate : Bool
  isSerial : Bool
  /-- The limit for a script, in seconds. -/
  timeout : Option Nat
  workRoot : Option String
  deriving DecidableEq, Repr

inductive Request where
  /-- Run the scripts of a path. -/
  | run (request : RunRequest)
  /-- Parse the scripts of a path. -/
  | validate (path : Path)
  /-- Make an example of a script. -/
  | init (path : Path)
  /-- Show the schema of configurations. -/
  | schema
  /-- Show what can be asked for. -/
  | help
  | version
  deriving DecidableEq, Repr

namespace Request

def helpSwitch : Switch := ⟨"help", some 'h', false⟩

def runSwitches : List Switch :=
  [ ⟨"output", some 'o', true⟩, ⟨"filter", some 'f', true⟩, ⟨"verbose", some 'v', false⟩,
    ⟨"update", some 'u', false⟩, ⟨"serial", none, false⟩, ⟨"timeout", none, true⟩,
    ⟨"workdir-root", none, true⟩, helpSwitch ]

/-- Where an example is made if nothing else is said. -/
def examplePath : Path := ⟨"tests/testdata/example.txt"⟩

/-- A path that is given as an operand; it is not empty. -/
def path? (word : String) : Option Path :=
  if word = "" then none else some ⟨word⟩

def seconds? (word : String) : Option Nat :=
  (Text.natural? word.toList).filter (· < Text.limit64)

/-- Reads the value of a switch if it has been given. -/
def optional? {α : Type} (a : Arguments) (name : String) (read : String → Option α) :
    Option (Option α) :=
  match a.value? name with
  | none => some none
  | some value => (read value).map some

/-- What the arguments of a run ask for. -/
def runOf? (a : Arguments) : Option Request := do
  let [operand] := a.operands | none
  let path ← path? operand
  let format ← optional? a "output" Format.ofName?
  let timeout ← optional? a "timeout" seconds?
  return .run
    { path := path
      format := format.getD .human
      filter := a.value? "filter"
      isVerbose := a.has "verbose"
      canUpdate := a.has "update"
      isSerial := a.has "serial"
      timeout := timeout
      workRoot := a.value? "workdir-root" }

/-- Reads arguments, of which the switch for help wins. -/
def reading? (switches : List Switch) (words : List String)
    (read : Arguments → Option Request) : Option Request := do
  let a ← Arguments.read? switches words
  if a.has helpSwitch.name then return .help else read a

/-- What the words of a command line ask for; nothing if they are misused. -/
def ofWords? : List String → Option Request
  | "run" :: words => reading? runSwitches words runOf?
  | "validate" :: words =>
    reading? [helpSwitch] words fun a => do
      let [operand] := a.operands | none
      return .validate (← path? operand)
  | "init" :: words =>
    reading? [helpSwitch] words fun a =>
      match a.operands with
      | [] => some (.init examplePath)
      | [operand] => (path? operand).map .init
      | _ => none
  | "schema" :: words =>
    reading? [helpSwitch] words fun a => if a.operands.isEmpty then some .schema else none
  | "help" :: _ => some .help
  | "--help" :: _ => some .help
  | "-h" :: _ => some .help
  | "--version" :: _ => some .version
  | "-V" :: _ => some .version
  | _ => none

end Request
end ScriptSuite.Cli
