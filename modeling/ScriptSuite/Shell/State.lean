import ScriptSuite.Shell.Arithmetic
import ScriptSuite.Shell.Parser
import ScriptSuite.Tools.Files

/-!
The state of a shell.
-/

namespace ScriptSuite.Shell

/-- Where the output of a shell goes. -/
inductive Sink where
  | stream (s : Stream)
  | file (place : Place)
  /-- Into the state of the shell. -/
  | kept
  | nowhere
  deriving DecidableEq, Repr

/-- What the shell does next. -/
inductive Flow where
  | normal
  /-- Ends the shell. -/
  | leaving
  /-- Ends a function or a file that is read. -/
  | returning
  /-- Ends so many loops. -/
  | breaking (loops : Nat)
  /-- Starts so many loops anew. -/
  | continuing (loops : Nat)
  deriving DecidableEq, Repr

/-- What a trap waits for. -/
inductive Trap where
  | signal (number : Nat)
  | leaving
  deriving DecidableEq, Repr

/-- The state of a shell. -/
structure State where
  /-- How a program is started. -/
  load : Invocation → Except Refusal Behaviour
  bindings : Environment
  /-- The names of the variables that programs are given. -/
  exported : List String
  /-- The name of the program, and its arguments. -/
  name : String
  parameters : List String
  status : Nat
  /-- The status of the last command whose output was put into the current one, if any. -/
  inner : Option Nat
  /-- The options that are set. -/
  options : List Char
  /-- Whether something depends on the status of the current command. -/
  isTested : Bool
  functions : List (String × Statement)
  folder : Place
  /-- What is left of the input. -/
  input : Bytes
  stdout : Sink
  stderr : Sink
  kept : Bytes
  traps : List (Trap × String)
  /-- The numbers of signals that came and have not been taken care of. -/
  pending : List Nat
  flow : Flow

/-- The number that a shell gives for itself. -/
def ownNumber : Nat := 4242

/-- The signals that end a program which does nothing about them, by their numbers from one
on. -/
def signalNames : List String :=
  ["HUP", "INT", "QUIT", "ILL", "TRAP", "ABRT", "BUS", "FPE", "KILL", "USR1", "SEGV", "USR2",
    "PIPE", "ALRM", "TERM"]

/-- The number of a signal, as `kill` and `trap` write it: by its number or its name. -/
def signal? (s : String) : Option Nat :=
  match Text.digits? s.toList with
  | some n => if 1 ≤ n && n ≤ signalNames.length then some n else none
  | none => (signalNames.findIdx? (· == s.map Char.toUpper)).map (· + 1)

namespace State

/-- The state with a status. -/
def ended (st : State) (status : Nat) : State := { st with status := status }

/-- What is done about a signal, if there is something to be done. -/
def trap? (st : State) (t : Trap) : Option String := List.lookup t st.traps

/-- How the shell takes the signal of that number. -/
def reaction (st : State) (number : Nat) : Reaction :=
  match st.trap? (.signal number) with
  | some "" => .ignores
  | some _ => .notes
  | none => .dies

/-- The environment that programs are given. -/
def environment (st : State) : Environment :=
  st.bindings.filter fun entry => st.exported.contains entry.1

def setVariable (st : State) (name value : String) : State :=
  { st with bindings := st.bindings.put name value }

/-- Lets the programs see a variable. -/
def shareVariable (st : State) (name : String) : State :=
  { st with exported := if st.exported.contains name then st.exported else name :: st.exported }

def parameter? (st : State) (name : String) : Option String :=
  match name with
  | "?" => some (toString st.status)
  | "$" => some (toString ownNumber)
  | "#" => some (toString st.parameters.length)
  | "@" | "*" => some (" ".intercalate st.parameters)
  | "0" => some st.name
  | "!" => some (toString (ownNumber + 1))
  | "-" => some (String.ofList st.options)
  | _ =>
    match Text.digits? name.toList with
    | some n => st.parameters[n - 1]?
    | none => st.bindings.value? name

/-- Where a stream goes. -/
def sink (st : State) : Stream → Sink
  | .stdout => st.stdout
  | .stderr => st.stderr

/-- Writes to a sink. -/
def emit (st : State) (stream : Stream) (data : Bytes) (next : State → Behaviour) : Behaviour :=
  if data.isEmpty then next st
  else
    match st.sink stream with
    | .stream s => .write s data (next st)
    | .kept => next { st with kept := st.kept ++ data }
    | .nowhere => next st
    | .file place =>
      .change (fun files =>
        match files.find? place with
        | some (.file content) =>
          if content.isDevice then files
          else files.put (.file { content with data := content.data ++ data }) place
        | _ => files) fun _ => next st

/-- Writes a report and takes its code as the status. -/
def report (st : State) (r : Report) (next : State → Behaviour) : Behaviour :=
  st.emit .stdout r.stdout fun st => st.emit .stderr r.stderr fun st => next (st.ended r.code)

/-- The head of a message of the shell. -/
def complaint (st : State) (line : Nat) (text : String) : Bytes :=
  Stray.bytesOf (st.name ++ ": " ++ toString line ++ ": " ++ text ++ "\n")

/-- Leaves the shell if it is to be left when a command fails, and nothing depends on the
status of this one. -/
def checked (st : State) : State :=
  if st.options.contains 'e' && !st.isTested && st.status != 0 && st.flow = .normal then
    { st with flow := .leaving }
  else st

/-- Shows a command before it runs, if that is asked for. -/
def trace (st : State) (values : List (String × String)) (fields : List String)
    (next : State → Behaviour) : Behaviour :=
  let words := (values.map fun entry => entry.1 ++ "=" ++ entry.2) ++ fields
  if st.options.contains 'x' && !words.isEmpty then
    st.emit .stderr (Stray.bytesOf ("+ " ++ " ".intercalate words ++ "\n")) next
  else next st

/-- The status for a program that was ended by a signal. -/
def signalStatus (number : Nat) : Nat := 128 + number

/-- Does what a program does, with its streams going where those of the shell go. -/
def within (next : Nat → State → Behaviour) : Behaviour → State → Behaviour
  | .exit code, st => next code st
  | .abort number, st => next (signalStatus number) st
  | .write stream data rest, st => st.emit stream data fun st => within next rest st
  | .change update rest, st => .change update fun files => within next (rest files) st
  | .pause length _ rest, st =>
    .pause length (fun signal => st.reaction signal.number) fun signals =>
      within next (rest []) { st with pending := st.pending ++ signals.map Signal.number }
  | .fork child rest, st =>
    .fork (within (fun code _ => .exit code) child st) (within next rest st)
  | .idle, _ => .idle

end State
end ScriptSuite.Shell
