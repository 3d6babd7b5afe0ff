import ScriptSuite.Path.Location
import ScriptSuite.Time.Duration

/-!
Results of scripts.

A result is made when a run begins, as that of a script that has passed, and is set field by field
while the run goes on. What became of the script is told by several fields at once. Nothing about
a result as such keeps them in agreement; that is up to what runs set.
-/

namespace ScriptSuite

/-- Where and why a script failed. -/
structure Failure where
  /-- The line of the instruction that failed, if it was one. -/
  line : Option Nat
  message : String
  deriving DecidableEq, Repr

inductive Outcome where
  | passed
  | failed
  | skipped
  deriving DecidableEq, Repr

def Outcome.name : Outcome → String
  | .passed => "passed"
  | .failed => "failed"
  | .skipped => "skipped"

structure ScriptResult where
  name : String
  path : Location
  outcome : Outcome
  duration : Duration
  failure : Option Failure
  /-- What the script gave as the reason for which it is to be skipped. -/
  skipReason : Option String
  /-- Whether the script has been written back with an updated archive. -/
  isUpdated : Bool
  /-- Jobs that would not die. -/
  warnings : List String
  log : String
  deriving DecidableEq, Repr

namespace ScriptResult

def new (name : String) (path : Location) : ScriptResult where
  name := name
  path := path
  outcome := .passed
  duration := .zero
  failure := none
  skipReason := none
  isUpdated := false
  warnings := []
  log := ""

def fail (r : ScriptResult) (line : Option Nat) (message : String) : ScriptResult :=
  { r with outcome := .failed, failure := some ⟨line, message⟩ }

def skip (r : ScriptResult) (reason : String) : ScriptResult :=
  { r with outcome := .skipped, skipReason := some reason }

/-- The result of a script whose run broke off. Whatever had been found out about it by then is
lost, its log included. -/
def panicked (name : String) (path : Location) : ScriptResult :=
  (new name path).fail none "script thread panicked"

/-- A script that was skipped counts as one that has not failed. -/
def hasPassed (r : ScriptResult) : Bool :=
  r.outcome ≠ .failed

end ScriptResult
end ScriptSuite
