import ScriptSuite.Command.Files
import ScriptSuite.Command.Matching
import ScriptSuite.Command.Programs
import ScriptSuite.Command.Variables

/-!
The commands that every script has.

Those that check something may be expected to fail, the others may not.
-/

namespace ScriptSuite.Registry

/-- The built-in commands, with patterns of the given language. -/
def builtinWith (language : PatternLanguage) : Registry where
  entries :=
    [ ("cmp", ⟨true, Matching.cmp⟩),
      ("cmpenv", ⟨true, Matching.cmpenv⟩),
      ("exec", ⟨true, Programs.exec⟩),
      ("exists", ⟨true, Files.exists⟩),
      ("grep", ⟨true, Matching.grep language⟩),
      ("stdout", ⟨true, Matching.stdout language⟩),
      ("stderr", ⟨true, Matching.stderr language⟩),
      ("cd", ⟨false, Files.cd⟩),
      ("chmod", ⟨false, Files.chmod⟩),
      ("cp", ⟨false, Files.cp⟩),
      ("env", ⟨false, Variables.env⟩),
      ("kill", ⟨false, Programs.kill⟩),
      ("mkdir", ⟨false, Files.mkdir⟩),
      ("mv", ⟨false, Files.mv⟩),
      ("rm", ⟨false, Files.rm⟩),
      ("skip", ⟨false, Variables.skip⟩),
      ("stdin", ⟨false, Programs.stdin⟩),
      ("stop", ⟨false, Variables.stop⟩),
      ("unquote", ⟨false, Files.unquote⟩),
      ("wait", ⟨false, Programs.wait⟩) ]

end ScriptSuite.Registry
