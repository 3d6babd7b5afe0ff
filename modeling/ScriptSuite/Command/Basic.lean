import ScriptSuite.Session.Basic

/-!
Commands and the table of commands.

A handler changes a session, and comes to its end or is interrupted; an interrupt keeps
the session as it is at that moment. A handler whose outcome is left to a later `wait`
says so in the session.
-/

namespace ScriptSuite

/-- A computation on a session that can be interrupted. The changes made before an
interrupt stay. -/
abbrev Handler := EStateM Interrupt Session

/-- A command of a script. It is given whether it has to fail, since some commands check or show
something else then; the verdict on its end is left to the engine. -/
structure Command where
  /-- Whether an instruction may expect it to fail. -/
  isNegatable : Bool
  /-- Runs the command, given whether it has to fail, and its arguments. -/
  run : Bool → List String → Handler Unit

namespace Handler

def fail {α : Type} (e : CommandError) : Handler α :=
  throw (.error e)

/-- Ends with a check that does not hold. This is the one way to end that a script may expect. -/
def failed {α : Type} (text : String) : Handler α :=
  fail (.failed text)

def misused {α : Type} (text : String) : Handler α :=
  fail (.usage text)

/-- Goes on only if a command is used as it should be. -/
def usage (isRight : Bool) (text : String) : Handler Unit :=
  if isRight then pure () else misused ("usage: " ++ text)

/-- Looks at the host. -/
def ofHost {α : Type} (f : Host → α) : Handler α := do
  let s ← get
  pure (f s.host)

/-- Lets something happen on the host. -/
def onHost {α : Type} (act : Host.Act α) : Handler α :=
  modifyGet fun s =>
    let (a, h) := act s.host
    (a, { s with host := h })

/-- Lets something happen on the host that may go wrong. What has happened up to the fault stays, as
the host after it is that of the session in either case. -/
def tryHost {ε α : Type} (raise : ε → Interrupt) (act : Host.Act (Except ε α)) :
    Handler α := do
  match ← onHost act with
  | .ok a => pure a
  | .error e => throw (raise e)

/-- The interrupt for a fault of the host that the command has no words for. -/
def hostFault (e : HostError) : Interrupt := .error (.host e)

def log (text : String) : Handler Unit :=
  modify fun s => s.write text

/-- The path that a name denotes. -/
def resolve (name : String) : Handler Path := do
  let s ← get
  pure (s.resolve name)

/-- The text of a file, or of an output. -/
def textOfFile (name : String) : Handler String := do
  let s ← get
  match s.textOfFile name with
  | .ok text => pure text
  | .error e => fail e

/-- The argument that a word stands for. -/
def expand (w : Word) : Handler String :=
  modifyGet (Session.expand w).run

/-- Runs something for each element, in order, up to the first interrupt. -/
def each {α : Type} (f : α → Handler Unit) : List α → Handler Unit
  | [] => pure ()
  | a :: rest => do
    f a
    each f rest

end Handler

/-- The commands of a run by name, in the order in which they were added. A name is taken once and
for all, so that nobody can put another command in the place of a built-in one. -/
structure Registry where
  entries : List (String × Command)

namespace Registry

def command? (r : Registry) (name : String) : Option Command :=
  List.lookup name r.entries

def has (r : Registry) (name : String) : Bool :=
  (r.command? name).isSome

/-- The registry with one more command, unless the name is taken. -/
def add? (r : Registry) (name : String) (c : Command) : Option Registry :=
  if r.has name then none else some ⟨r.entries ++ [(name, c)]⟩

/-- The registry with more commands; the first name that is taken is refused. -/
def addAll (r : Registry) : List (String × Command) → Except String Registry
  | [] => .ok r
  | (name, c) :: rest =>
    match r.add? name c with
    | none => .error name
    | some r => r.addAll rest

/-- The names, sorted. -/
def names (r : Registry) : List String :=
  (r.entries.map Prod.fst).mergeSort fun a b => !(b < a)

def describe (r : Registry) : String :=
  "Registry \x7b commands: " ++ Text.quotedList ", " r.names ++ " \x7d"

end Registry
end ScriptSuite
