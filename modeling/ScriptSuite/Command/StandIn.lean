/-!
Standing in for another program.

The program that runs the scripts can stand in for a small program of its own: it is then
started again with a flag and the name of that program in front of the arguments, and
`dispatch?` tells the new process which program it is to be.
-/

namespace ScriptSuite.StandIn

/-- The argument that selects a program to stand in for. -/
def flag : String := "--scriptest-program"

/-- The command line that starts an executable as a stand-in. -/
def commandLine (executable : String) (arguments : List String) : List String :=
  executable :: flag :: arguments

/-- The program that a command line selects, and its arguments. Any other command line is one of the
runner itself. -/
def dispatch? : List String → Option (String × List String)
  | _ :: first :: name :: arguments => if first = flag then some (name, arguments) else none
  | _ => none

theorem dispatch?_commandLine (executable name : String) (arguments : List String) :
    dispatch? (commandLine executable (name :: arguments)) = some (name, arguments) := by
  simp [dispatch?, commandLine]

end ScriptSuite.StandIn
