import ScriptSuite.Command.Basic

/-!
Commands on variables, and those that end a run.
-/

namespace ScriptSuite.Variables

open Handler

/-- All variables with their values, sorted. -/
def listing (env : Environment) : String :=
  let lines := env.map fun (name, value) => name ++ "=" ++ value
  "\n".intercalate (lines.mergeSort fun a b => !(b < a))

/-- Sets a variable, or shows it. -/
def envOne (argument : String) : Handler Unit := do
  match Variable.assignment? argument with
  | some (name, value) => modify fun s => s.setVariable name value
  | none =>
    let s ← get
    log (argument ++ "=" ++ s.valueOf argument)

/-- `env [key=value...]`: sets variables and shows them, all if there is no argument. -/
def env (_ : Bool) (arguments : List String) : Handler Unit := do
  if arguments.isEmpty then
    let s ← get
    log (listing s.environment)
  else each envOne arguments

/-- `skip [reason]`: reports the script as skipped. -/
def skip (_ : Bool) (arguments : List String) : Handler Unit :=
  fail (.skip (" ".intercalate arguments))

/-- `stop [reason]`: ends the run with success. -/
def stop (_ : Bool) (arguments : List String) : Handler Unit :=
  fail (.stop (" ".intercalate arguments))

end ScriptSuite.Variables
