import ScriptSuite.Proofs.Command.Jobs
import ScriptSuite.Proofs.Host.Searching
import ScriptSuite.Proofs.Suite.Finish
import ScriptSuite.Proofs.Suite.Step
import ScriptSuite.Proofs.Text.Trimming

/-!
Conditions that ask for a program.

Such a condition searches the variable PATH of the session, but from the folder of the host and
not from that of the session, which is where `exec` searches it (`findImage_launchOf_iff`). So the
two agree if and only if the search along the relative folders of PATH does not depend on the
folder (`asked_agrees_iff`). A program in a folder that the script itself has made is found by
`exec` only (`not_asked_in_sandbox`).
-/

namespace ScriptSuite.Engine

open Session Node

variable {e : Engine} {s : Session} {inst : Instruction} {cond : Condition}
  {name list : String} {folder : Place}

/-- Whether a condition holds that asks for a program. -/
theorem conditionsHold_asked (alone : inst.conditions = [cond])
    (asks : cond.tag = Conditions.programLead ++ name)
    (undefined : e.params.conditions.value? cond.tag = none)
    (searches : s.environment.value? searchVariable = some list) :
    e.conditionsHold s inst =
      .ok ((Conditions.findProgram s.host name (some list)).isSome != cond.negated) := by
  have named : Text.dropLead? Conditions.programLead.toList cond.tag.toList = some name.toList := by
    rw [asks, String.toList_append]
    exact Text.dropLead?_eq_some_iff.mpr rfl
  have evaluated : e.params.conditions.evaluate s.host (some list) cond =
      .ok ((Conditions.findProgram s.host name (some list)).isSome != cond.negated) := by
    rw [Conditions.evaluate, Conditions.tag?, undefined]
    simp only [named, String.ofList_toList]
  rw [conditionsHold, alone, searches, Conditions.allHold, evaluated]
  cases (Conditions.findProgram s.host name (some list)).isSome != cond.negated <;> rfl

/-- A condition that asks for a program is met if and only if the name finds one from the folder of
the host. -/
theorem asked_iff (alone : inst.conditions = [cond])
    (asks : cond.tag = Conditions.programLead ++ name)
    (undefined : e.params.conditions.value? cond.tag = none)
    (searches : s.environment.value? searchVariable = some list) :
    e.conditionsHold s inst = .ok (!cond.negated) ↔
      s.host.files.Finds s.host.folder name list := by
  rw [conditionsHold_asked alone asks undefined searches, Except.ok.injEq,
    ← Conditions.isSome_findProgram_iff]
  cases cond.negated <;> simp

/-- What `exec` comes to is a candidate that may be run and that loads, seen from the folder that
the program is started in. -/
theorem exists_image_launchOf_iff (folder : Place) (unregistered : s.programs.contains name = false)
    (searches : s.environment.value? searchVariable = some list) (rest : List String) :
    (∃ loaded, s.host.files.findImage folder (Programs.launchOf s (name :: rest)).environment
        (Programs.launchOf s (name :: rest)).program
        (Programs.launchOf s (name :: rest)).arguments = .ok loaded) ↔
      ∃ p ∈ candidates name list, s.host.files.Runnable folder p ∧
        s.host.files.Loads folder (name :: rest) (!name.toList.contains '/') p := by
  have line : (Programs.launchOf s (name :: rest)).arguments = name :: rest := by
    rw [Programs.launchOf, Programs.commandLine, List.headD_cons, unregistered]
    rfl
  have searched : (Programs.launchOf s (name :: rest)).environment.value? searchVariable =
      some list := searches
  rw [Launch.program, line, List.headD_cons, exists_findImage_iff searched]
  exact exists_congr fun p => and_congr_right fun _ => (and_iff_right_of_imp Loads.runnable).symm

/-- A program that is started has an image. -/
theorem exists_image_of_behaviourOf {h : Host} {l : Launch} {behaviour : Behaviour}
    (starts : h.behaviourOf l = .ok behaviour) (placed : h.place l.folder = .ok folder) :
    ∃ loaded, h.files.findImage folder l.environment l.program l.arguments = .ok loaded := by
  rw [Host.behaviourOf] at starts
  split at starts
  · cases starts
  · simp only [placed] at starts
    split at starts
    · cases starts
    · cases starts
    · split at starts
      · cases starts
      · next found => exact ⟨_, found⟩

/-- A condition that asks for a program is met if and only if the name finds one from the folder of
the host, and `exec` starts only what the name finds from the folder of the session. So they agree
if and only if an absolute candidate may be run, or the relative candidates from the one folder are
as good as those from the other. -/
theorem asked_agrees_iff (alone : inst.conditions = [cond])
    (asks : cond.tag = Conditions.programLead ++ name)
    (undefined : e.params.conditions.value? cond.tag = none)
    (unregistered : s.programs.contains name = false)
    (searches : s.environment.value? searchVariable = some list)
    (placed : s.host.place s.folder = .ok folder) (stands : s.host.files.HasFolder folder) :
    (e.conditionsHold s inst = .ok (!cond.negated) ↔
      s.host.files.Finds s.host.folder name list) ∧
    (∀ rest behaviour, s.host.behaviourOf (Programs.launchOf s (name :: rest)) = .ok behaviour →
      s.host.files.Finds folder name list) ∧
    (∀ rest, (∃ loaded, s.host.files.findImage folder
        (Programs.launchOf s (name :: rest)).environment
        (Programs.launchOf s (name :: rest)).program
        (Programs.launchOf s (name :: rest)).arguments = .ok loaded) ↔
      ∃ p ∈ candidates name list, s.host.files.Runnable folder p ∧
        s.host.files.Loads folder (name :: rest) (!name.toList.contains '/') p) ∧
    ((e.conditionsHold s inst = .ok (!cond.negated) ↔ s.host.files.Finds folder name list) ↔
      s.host.files.FindsAmong true folder name list ∨
        (s.host.files.FindsAmong false s.host.folder name list ↔
          s.host.files.FindsAmong false folder name list)) := by
  have asked := asked_iff alone asks undefined searches
  have images := exists_image_launchOf_iff folder unregistered searches
  refine ⟨asked, ?_, images, ?_⟩
  · intro rest behaviour starts
    obtain ⟨p, listed, runs, -⟩ := (images rest).mp (exists_image_of_behaviourOf starts placed)
    exact ⟨p, listed, runs⟩
  · rw [asked]
    exact finds_iff_finds (hasFolder_of_follow (placeFrom_ok placed).1 stands) stands

/-- A sandbox with a tool in it. -/
def toolInSandbox : Listing :=
  .folder ['w'] 0o755 (.file ['t', 'o', 'o', 'l'] ⟨nativeMark, 0o755, false⟩ .empty) .empty

/-- A session in that sandbox that searches programs along a list. -/
def searching (list : String) : Session :=
  { Session.ofFiles toolInSandbox with folder := ⟨"/w"⟩, environment := [("PATH", list)] }

/-- An instruction that runs the tool if there is one. -/
def runToolIfAsked : Instruction :=
  ⟨1, "[exec:tool] exec tool", [⟨false, "exec:tool"⟩], .success, "exec", [Word.ofLiteral "tool"]⟩

theorem asked_agrees_iff_absolute :
    (plain false).conditionsHold (searching "/w") runToolIfAsked = .ok true ∧
      (searching "/w").host.files.Finds [['w']] "tool" "/w" := by
  have alone : runToolIfAsked.conditions = [⟨false, "exec:tool"⟩] := rfl
  have asks : "exec:tool" = Conditions.programLead ++ "tool" := by decide
  have undefined : (plain false).params.conditions.value? "exec:tool" = none := rfl
  have unregistered : (searching "/w").programs.contains "tool" = false := rfl
  have searches : (searching "/w").environment.value? searchVariable = some "/w" := rfl
  have placed : (searching "/w").host.place (searching "/w").folder = .ok [['w']] := by
    decide +kernel
  have agrees := asked_agrees_iff alone asks undefined unregistered searches placed ⟨_, _, rfl⟩
  have met : (plain false).conditionsHold (searching "/w") runToolIfAsked = .ok true := by
    decide +kernel
  have finds : (searching "/w").host.files.FindsAmong true [['w']] "tool" "/w" :=
    ⟨⟨"/w/tool"⟩, by decide, by decide, ⟨nativeMark, 0o755, false⟩, by decide +kernel, rfl,
      by decide⟩
  exact ⟨met, (agrees.2.2.2.mpr (.inl finds)).mp met⟩

/-- A tool in the folder of the session is found by `exec`, but not by the condition, which searches
from elsewhere. -/
theorem not_asked_in_sandbox :
    (plain false).conditionsHold (searching ".") runToolIfAsked = .ok false ∧
      (searching ".").host.files.Finds [['w']] "tool" "." ∧
      (searching ".").host.files.findImage [['w']] (searching ".").environment "tool" ["tool"] =
        .ok (nativeMark, ["tool"]) := by
  refine ⟨by decide +kernel, ⟨⟨"./tool"⟩, by decide, ?_⟩, by decide +kernel⟩
  exact ⟨⟨nativeMark, 0o755, false⟩, by decide +kernel, rfl, by decide⟩

end ScriptSuite.Engine
