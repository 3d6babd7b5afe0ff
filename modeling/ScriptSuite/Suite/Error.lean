import ScriptSuite.Path.Location
import ScriptSuite.Script.Basic
import ScriptSuite.Session.Error

/-!
What goes wrong with a suite of scripts.
-/

namespace ScriptSuite

/-- A script or a configuration that cannot be loaded. -/
inductive LoadError where
  | host (at_ : Location) (cause : HostError)
  | yaml (reason : String)
  | toml (reason : String)
  | script (at_ : Location) (cause : ParseError)
  deriving DecidableEq, Repr

def LoadError.message : LoadError → String
  | .host at_ cause => "failed to read " ++ at_.shown ++ ": " ++ cause.message
  | .yaml reason => "invalid YAML: " ++ reason
  | .toml reason => "invalid TOML: " ++ reason
  | .script at_ cause => at_.shown ++ ": " ++ cause.message

/-- The line that an error points at. -/
def LoadError.line? : LoadError → Option Nat
  | .script _ cause => some cause.line
  | _ => none

inductive RunError where
  | load (cause : LoadError)
  | unknownCommand (name : String)
  | unknownCondition (tag : String)
  /-- A command has been registered more than once. -/
  | collision (name : String)
  /-- A command does not take the mark of its instruction. -/
  | negation (command : String) (mark : Char)
  | command (cause : CommandError)
  | timeout (limit : Duration)
  | sandbox (cause : HostError)
  | scriptsFailed (failed total : Nat)
  deriving DecidableEq, Repr

def RunError.message : RunError → String
  | .load cause => cause.message
  | .unknownCommand name => "unknown command " ++ Text.quoted name
  | .unknownCondition tag => "unknown condition " ++ Text.quoted tag
  | .collision name => "command " ++ Text.quoted name ++ " is registered more than once"
  | .negation name mark => name ++ " does not support " ++ Text.quotedChar mark
  | .command cause => cause.message
  | .timeout limit => "script timed out after " ++ limit.rounded
  | .sandbox cause => "failed to create sandbox: " ++ cause.message
  | .scriptsFailed failed total =>
    toString failed ++ " of " ++ toString total ++ " script(s) failed"

end ScriptSuite
