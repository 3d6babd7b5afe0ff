import ScriptSuite.Proofs.Suite.Course
import ScriptSuite.Proofs.Suite.Finish

/-!
What is written back after a run in update mode.

Whatever commands a run calls, its script changes by updates of the archive alone
(`lasting_revises`). So the text that replaces the source is read as a script with the same
instructions and the same files, in which the updated files have the texts that were put into
them last (`rewrite_preserved_iff`). The one exception is a last separator without an ending,
to which the new text of its file is glued.
-/

namespace ScriptSuite.Engine

open Handler Session Text

section

variable {e : Engine}

/-! ### The script after a run -/

theorem lasting_revises : Lasting Revises where
  trans := Revises.trans
  changes := Reaches.revises
  called := fun _ _ => .of_eq rfl rfl

/-! ### The text that is written back -/

variable {name : String} {path : Location} {h h' : Host} {result : ScriptResult}

/-- A run that says that it has updated its script has got through it and has written the
script to where it comes from. -/
theorem completed_of_updated (finished : e.run name path h = (.finished result, h'))
    (updated : result.isUpdated = true) :
    ∃ s t, e.prepare name path h.time.1 h.time.2 = .ok s ∧
      e.execute s = (.halts .completed, t) ∧ result.outcome = .passed ∧
      (t.host.write path (bytesOf t.script.toSource)).1 = .ok () := by
  obtain ⟨s, prepared⟩ := exists_of_updated finished updated
  obtain ⟨t, ended, passed, written⟩ := (run_finished prepared finished).written updated
  exact ⟨s, t, prepared, ended, passed, (writeBack_updated written).2⟩

/-- The text that takes the place of the source has the same instructions and the same files,
files that have not been updated with the same data and the others with the texts that were
last put into them, if and only if the last separator has an ending or its file has only got
line feeds. The commands and the setup hook that are not built in may be any that do not
touch the script but by updates. -/
theorem rewrite_preserved_iff {language : PatternLanguage} {params : RunParams}
    (made : make language params = .ok e)
    (commands : ∀ entry ∈ params.commands, ∀ negated arguments,
      Handler.Keeps Revises (entry.2.run negated arguments))
    (setup : ∀ hook, params.setup = some hook → Handler.Keeps Revises hook)
    (finished : e.run name path h = (.finished result, h'))
    (updated : result.isUpdated = true) :
    ∃ source s t, h.time.2.readText path = .ok source ∧ Script.parse source = .ok s.script ∧
      e.prepare name path h.time.1 h.time.2 = .ok s ∧
      e.execute s = (.halts .completed, t) ∧ result.outcome = .passed ∧
      (t.host.write path (bytesOf t.script.toSource)).1 = .ok () ∧
      (Script.Preserved s.script t.updates t.script.toSource ↔
        ∀ f ∈ t.script.files, f.ending = .bare → ∀ c ∈ decodeLossy f.data, c = '\n') := by
  obtain ⟨s, t, prepared, ended, passed, writes⟩ := completed_of_updated finished updated
  obtain ⟨script, deadline, workDir, scratch, host, loaded, -, rfl⟩ := prepare_eq_ok prepared
  obtain ⟨source, reads, parses⟩ := Suite.loadScript_eq_ok loaded
  rw [← params_of_make made] at setup
  have revises := execute_lasts lasting_revises (keeps_of_make made Reaches.revises commands) setup
    (Session.start script workDir scratch (e.options deadline) host)
  rw [ended] at revises
  obtain ⟨us, updates, revised⟩ := revises
  have all : t.updates = us := updates
  exact ⟨source, _, t, reads, parses, prepared, ended, passed, writes,
    all ▸ Script.preserved_iff parses revised⟩

/-! ### An update of the last file -/

/-- A script that updates its last file, with some ending after the last separator. -/
def golden (ending : String) : String :=
  "cmp got want\n-- got --\nnew\n-- want --" ++ ending

/-- A line feed after the last separator keeps the new text apart from it. -/
theorem rewrite_preserved_iff_golden :
    ∃ s t, plainSession? true (golden "\n") = some s ∧
      (plain true).execute s = (.halts .completed, t) ∧
      Script.Preserved s.script t.updates t.script.toSource := by
  have reported : (plainResult? true (golden "\n")).map ScriptResult.isUpdated = some true := by
    decide +kernel
  have endings : (plainSession? true (golden "\n")).map
      (fun s => ((plain true).execute s).2.script.files.map ArchiveFile.ending) =
        some [.lineFeed, .lineFeed] := by decide +kernel
  obtain ⟨result, results, updated⟩ := Option.map_eq_some_iff.mp reported
  obtain ⟨s, session, both⟩ := Option.map_eq_some_iff.mp endings
  obtain ⟨h', ran⟩ := run_of_plainResult? results
  have made : make noPatterns (plainParams true) = .ok (plain true) := rfl
  obtain ⟨source, s', t, -, -, prepared, completed, -, -, preserved⟩ :=
    rewrite_preserved_iff made (fun _ mem => absurd mem List.not_mem_nil)
      (fun _ found => by cases found) ran updated
  cases prepared.symm.trans (prepare_of_plainSession? session)
  refine ⟨s, t, session, completed, preserved.mpr fun f mem bare => ?_⟩
  have ending : f.ending ∈ t.script.files.map ArchiveFile.ending := List.mem_map_of_mem mem
  rw [completed] at both
  simp [both, bare] at ending

/-- Without a line feed the new text is glued to the last separator, and one file is lost. -/
theorem not_preserved_of_bareSeparator :
    ∃ s t result, plainSession? true (golden "") = some s ∧
      plainResult? true (golden "") = some result ∧ result.outcome = .passed ∧
      result.isUpdated = true ∧ (plain true).execute s = (.halts .completed, t) ∧
      ¬ Script.Preserved s.script t.updates t.script.toSource := by
  have reported : (plainResult? true (golden "")).map ScriptResult.isUpdated = some true := by
    decide +kernel
  have counted : (plainSession? true (golden "")).map (fun s => (s.script.files.length,
      ((Script.parse ((plain true).execute s).2.script.toSource).map
        fun r => r.files.length).toOption)) = some (2, some 1) := by decide +kernel
  obtain ⟨result, results, updated⟩ := Option.map_eq_some_iff.mp reported
  obtain ⟨s, session, counts⟩ := Option.map_eq_some_iff.mp counted
  obtain ⟨h', ran⟩ := run_of_plainResult? results
  obtain ⟨s', t, prepared, completed, passed, -⟩ := completed_of_updated ran updated
  cases prepared.symm.trans (prepare_of_plainSession? session)
  refine ⟨s, t, result, session, results, passed, updated, completed, ?_⟩
  rintro ⟨r, reads, -, carries⟩
  have same := carries.length_eq
  simp [completed, reads, Except.map, Except.toOption] at counts
  omega

end

end ScriptSuite.Engine
