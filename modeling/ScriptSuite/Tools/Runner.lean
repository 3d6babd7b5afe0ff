import ScriptSuite.Command.StandIn
import ScriptSuite.Text.Number
import ScriptSuite.Text.Quoted
import ScriptSuite.Tools.Basic

/-!
The programs that a suite runner may stand in for.
-/

namespace ScriptSuite.Tools

/-- The lowest code that `status` can be asked for. -/
def lowestCode : Int := -2147483648

/-- The highest code that `status` can be asked for. -/
def highestCode : Int := 2147483647

/-- Shows the arguments in brackets, each quoted. -/
def showArguments (arguments : List String) : Report :=
  .text (Text.quotedList " " arguments ++ "\n")

/-- Ends with the code that the first argument writes. -/
def endWithStatus (arguments : List String) : Report :=
  match arguments.head?.bind fun a => Text.integer? a.toList with
  | some n =>
    if lowestCode ≤ n && n ≤ highestCode then ⟨[], [], (n % 256).toNat⟩
    else .complaint "usage: status CODE\n" 2
  | none => .complaint "usage: status CODE\n" 2

/-- The programs that a runner stands in for, by name. -/
def standIns : List (String × (List String → Report)) :=
  [("printargs", showArguments), ("status", endWithStatus)]

/-- A runner that stands in for the given programs; started in any other way it does nothing. -/
def runner (programs : List (String × (List String → Report))) : Program := telling fun i =>
  match StandIn.dispatch? i.arguments with
  | none => .output []
  | some (name, arguments) =>
    match List.lookup name programs with
    | some f => f arguments
    | none => .complaint ("unknown program " ++ Text.quoted name ++ "\n") 2

end ScriptSuite.Tools
