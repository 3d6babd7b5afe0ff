import ScriptSuite.Text.Blank
import ScriptSuite.Text.Quoted

/-!
Signals.

A signal is written by its name, with or without `SIG`, in capitals or not, or by its
number.
-/

namespace ScriptSuite

/-- A signal that can be sent to a process. -/
inductive Signal where
  | interrupt
  | terminate
  | kill
  | quit
  | hangup
  deriving DecidableEq, Repr

namespace Signal

def all : List Signal := [.interrupt, .terminate, .kill, .quit, .hangup]

def number : Signal → Nat
  | .hangup => 1
  | .interrupt => 2
  | .quit => 3
  | .kill => 9
  | .terminate => 15

/-- The name of a signal, without `SIG`. -/
def shortName : Signal → String
  | .interrupt => "INT"
  | .terminate => "TERM"
  | .kill => "KILL"
  | .quit => "QUIT"
  | .hangup => "HUP"

def name (s : Signal) : String := "SIG" ++ s.shortName

/-- What stands before a full name. -/
def lead : List Char := ['S', 'I', 'G']

def parse? (s : String) : Option Signal :=
  let upper := s.toList.map Char.toUpper
  let short := (Text.dropLead? lead upper).getD upper
  all.find? fun sig =>
    sig.shortName.toList == short || Nat.toDigits 10 sig.number == short

/-- The text for a signal that cannot be read. -/
def unknown (s : String) : String := "unknown signal " ++ Text.quoted s

end Signal
end ScriptSuite
