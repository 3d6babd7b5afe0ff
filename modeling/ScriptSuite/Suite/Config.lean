import ScriptSuite.Path.Basic
import ScriptSuite.Time.Calendar
import ScriptSuite.Variable.Environment

/-!
The configuration of a suite, as a file in its folder gives it.
-/

namespace ScriptSuite

/-- Where sandboxes are made. A folder with a stamp is a new one for every run of the suite, so that
what is left of it can be told apart. -/
inductive WorkRoot where
  /-- A folder below the suite, stamped with the time. -/
  | stamped
  | folder (path : Path)
  deriving DecidableEq, Repr

namespace WorkRoot

/-- The text of `stamped`. -/
def stampedText : String := "local"

/-- The folder that holds stamped folders. -/
def stampedFolder : String := ".scriptest"

def ofText (text : String) : WorkRoot :=
  if text = stampedText then .stamped else .folder ⟨text⟩

def text : WorkRoot → String
  | .stamped => stampedText
  | .folder path => path.text

/-- The folder that a work root denotes for the suite in `root`. -/
def resolve (w : WorkRoot) (root : Path) (now : Instant) : Path :=
  match w with
  | .stamped => (root.join stampedFolder).join (Calendar.stamp now)
  | .folder path => root.join path.text

end WorkRoot

/-- The configuration of a suite. Whatever it leaves out is left to the parameters of the run. -/
structure SuiteConfig where
  version : Nat
  /-- The limit for a script, in seconds. -/
  timeout : Option Nat
  /-- How long jobs are waited for, in seconds. -/
  waitTimeout : Option Nat
  environment : Environment
  conditions : List (String × Bool)
  isSerial : Bool
  canUpdate : Bool
  workRoot : Option WorkRoot
  deriving DecidableEq, Repr

/-- The configuration that says nothing. -/
def SuiteConfig.empty : SuiteConfig where
  version := 1
  timeout := none
  waitTimeout := none
  environment := []
  conditions := []
  isSerial := false
  canUpdate := false
  workRoot := none

end ScriptSuite
