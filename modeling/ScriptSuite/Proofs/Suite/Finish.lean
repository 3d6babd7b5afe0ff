import ScriptSuite.Proofs.Session.Change
import ScriptSuite.Proofs.Session.Sandbox
import ScriptSuite.Suite.Engine

/-!
The beginning and the end of a run.

A run that gives a result has loaded the script and set up a session for it, or it has failed
before (`prepare_eq_ok`); its result then says how the instructions ended, and what became of
an attempt to write the script back (`run_finished`).
-/

namespace ScriptSuite

/-- A script that has been loaded has been read and parsed. -/
theorem Suite.loadScript_eq_ok {h : Host} {path : Location} {s : Script}
    (loaded : loadScript h path = .ok s) :
    ∃ source, h.readText path = .ok source ∧ Script.parse source = .ok s := by
  rw [loadScript] at loaded
  split at loaded
  · contradiction
  · next source reads =>
    split at loaded
    · contradiction
    · next parses =>
      cases loaded
      exact ⟨source, reads, parses⟩

/-- The result of a run, if it gives one. -/
def RunEnd.result? : RunEnd → Option ScriptResult
  | .finished result => some result
  | .panicked => none
  | .endless => none

theorem RunEnd.eq_finished_of_result? {ended : RunEnd} {result : ScriptResult}
    (h : ended.result? = some result) : ended = .finished result := by
  cases ended with
  | finished inner => rw [Option.some.inj h]
  | panicked => cases h
  | endless => cases h

namespace ScriptResult

/-- The fields of a result that tell what became of its script. -/
def verdict (r : ScriptResult) : Outcome × Option Failure × Option String × Bool :=
  (r.outcome, r.failure, r.skipReason, r.isUpdated)

theorem verdict_eq_iff {r : ScriptResult} {outcome : Outcome} {failure : Option Failure}
    {skipReason : Option String} {isUpdated : Bool} :
    r.verdict = (outcome, failure, skipReason, isUpdated) ↔
      r.outcome = outcome ∧ r.failure = failure ∧ r.skipReason = skipReason ∧
        r.isUpdated = isUpdated := by
  simp [verdict]

end ScriptResult

namespace Engine

variable {e : Engine} {name : String} {path : Location} {start : Instant} {h h' : Host}
  {s : Session} {result : ScriptResult}

/-- A session that has been prepared has been set up in a new sandbox, for the script that has been
loaded. -/
theorem opened_of_prepare (prepared : e.prepare name path start h = .ok s) :
    ∃ script deadline host, Suite.loadScript h path = .ok script ∧
      e.makeSandbox h = (.ok s.workDir, host) ∧ e.deadline? start = some deadline ∧
      Session.open? script s.workDir (e.options deadline) host = .ok s := by
  rw [prepare] at prepared
  split at prepared
  · contradiction
  · next script loaded =>
    simp only at prepared
    split at prepared
    · contradiction
    · next workDir host made =>
      split at prepared
      · contradiction
      · next deadline represented =>
        split at prepared
        · contradiction
        · next t opened =>
          rw [Except.ok.injEq] at prepared
          subst prepared
          have own := Session.workDir_of_open? opened
          rw [← own] at made opened
          exact ⟨script, deadline, host, loaded, made, represented, opened⟩

/-- Nothing has happened in a session that has been prepared. -/
theorem prepare_eq_ok (prepared : e.prepare name path start h = .ok s) :
    ∃ script deadline workDir scratch host, Suite.loadScript h path = .ok script ∧
      e.deadline? start = some deadline ∧
      s = Session.start script workDir scratch (e.options deadline) host := by
  obtain ⟨script, deadline, _, loaded, -, represented, opened⟩ := opened_of_prepare prepared
  obtain ⟨scratch, host, same⟩ := Session.open?_eq_start opened
  exact ⟨script, deadline, s.workDir, scratch, host, loaded, represented, same⟩

/-- A script that cannot be prepared has failed, and nothing else is told of it. -/
theorem fail_of_prepare
    (refused : e.prepare name path start h = .error (.finished result, h')) :
    ∃ line message, result = (ScriptResult.new name path).fail line message := by
  rw [prepare] at refused
  simp only at refused
  split at refused
  · cases refused
    exact ⟨_, _, rfl⟩
  · split at refused
    · cases refused
      exact ⟨_, _, rfl⟩
    · split at refused
      · cases refused
      · split at refused
        · cases refused
          exact ⟨_, _, rfl⟩
        · contradiction

/-- The result of a run whose script could not be prepared does not report an update. -/
theorem isUpdated_of_prepare
    (refused : e.prepare name path start h = .error (.finished result, h')) :
    result.isUpdated = false := by
  obtain ⟨line, message, rfl⟩ := fail_of_prepare refused
  rfl

/-- A run whose script has not been prepared does not say that it has been updated. -/
theorem exists_of_updated (finished : e.run name path h = (.finished result, h'))
    (updated : result.isUpdated = true) :
    ∃ s, e.prepare name path h.time.1 h.time.2 = .ok s := by
  cases prepared : e.prepare name path h.time.1 h.time.2 with
  | ok s => exact ⟨s, rfl⟩
  | error ended =>
    rw [run] at finished
    simp only [runUntimed, prepared] at finished
    obtain ⟨ending, host⟩ := ended
    cases ending with
    | finished inner =>
      cases finished
      have notUpdated := isUpdated_of_prepare prepared
      simp only at updated
      simp [updated] at notUpdated
    | panicked => cases finished
    | endless => cases finished

/-- A script without a time limit has no deadline. -/
theorem deadline_of_prepare (noLimit : e.params.timeout = none)
    (prepared : e.prepare name path start h = .ok s) : s.deadline = none := by
  obtain ⟨script, deadline, workDir, scratch, host, -, represented, rfl⟩ :=
    prepare_eq_ok prepared
  rw [deadline?, noLimit] at represented
  exact (Option.some.inj represented).symm

/-- The ending that a result reports. All fields that tell what became of the script are told,
those included that the ending leaves as they were. -/
inductive Reports (path : Location) : ScriptEnd × Session → ScriptResult → Prop where
  | completed {t : Session} {isUpdated : Bool} {r : ScriptResult} :
      (writeBack path t).1 = .ok isUpdated → r.verdict = (.passed, none, none, isUpdated) →
      Reports path (.halts .completed, t) r
  | unwritten {t : Session} {err : HostError} {r : ScriptResult} :
      (writeBack path t).1 = .error err →
      r.verdict =
        (.failed, some ⟨none, "failed to update script: " ++ err.message⟩, none, false) →
      Reports path (.halts .completed, t) r
  | skipped {t : Session} {reason : String} {r : ScriptResult} :
      r.verdict = (.skipped, none, some reason, false) →
      Reports path (.halts (.skipped reason), t) r
  | failed {t : Session} {line : Option Nat} {err : RunError} {r : ScriptResult} :
      r.verdict = (.failed, some ⟨line, err.message⟩, none, false) →
      Reports path (.fails line err, t) r

/-- Nothing else in a result is part of the report. -/
theorem Reports.congr {ended : ScriptEnd × Session} {r r' : ScriptResult}
    (reports : Reports path ended r) (same : r'.verdict = r.verdict) : Reports path ended r' := by
  cases reports with
  | completed written told => exact .completed written (same.trans told)
  | unwritten failed told => exact .unwritten failed (same.trans told)
  | skipped told => exact .skipped (same.trans told)
  | failed told => exact .failed (same.trans told)

/-- Only a script that has passed and has been written back is reported as updated. -/
theorem Reports.written {ended : ScriptEnd × Session} {r : ScriptResult}
    (reports : Reports path ended r) (updated : r.isUpdated = true) :
    ∃ t, ended = (.halts .completed, t) ∧ r.outcome = .passed ∧
      (writeBack path t).1 = .ok true := by
  cases reports with
  | @completed t _ _ written told =>
    obtain ⟨passed, -, -, same⟩ := ScriptResult.verdict_eq_iff.mp told
    exact ⟨t, rfl, passed, by rw [written, ← same, updated]⟩
  | unwritten _ told => simp [ScriptResult.verdict, updated] at told
  | skipped told => simp [ScriptResult.verdict, updated] at told
  | failed told => simp [ScriptResult.verdict, updated] at told

/-- What a new result says of the attempt to write its script back. -/
theorem reports_recordWrite (name : String) (t : Session) :
    Reports path (.halts .completed, t)
      (recordWrite (ScriptResult.new name path) (writeBack path t).1) := by
  cases written : (writeBack path t).1 with
  | error err => exact .unwritten written rfl
  | ok isUpdated => cases isUpdated <;> exact .completed written rfl

/-- A result is completed when the jobs of its session have been ended. -/
theorem conclude_eq_finished {r : ScriptResult}
    (finished : conclude r s = (.finished result, h')) :
    ∃ t, s.teardown = (true, t) ∧ result = { r with warnings := t.warnings, log := t.log } := by
  rw [conclude] at finished
  split at finished
  · cases finished
  · next t ended =>
    cases finished
    exact ⟨t, ended, rfl⟩

/-- A result reports on the execution that it has been made for. -/
theorem runSession_finished
    (finished : e.runSession path (.new name path) s = (.finished result, h')) :
    Reports path (e.execute s) result := by
  rw [runSession] at finished
  cases ended : e.execute s with
  | mk ending t =>
    rw [ended] at finished
    cases ending with
    | halts halt =>
      cases halt with
      | completed =>
        obtain ⟨_, -, rfl⟩ := conclude_eq_finished finished
        exact (reports_recordWrite name t).congr rfl
      | skipped reason =>
        obtain ⟨_, -, rfl⟩ := conclude_eq_finished finished
        exact .skipped rfl
    | fails line err =>
      obtain ⟨_, -, rfl⟩ := conclude_eq_finished finished
      exact .failed rfl
    | panics => cases finished
    | endless => cases finished

/-- What is recorded leaves the name and the path of a result as they are. -/
theorem named_recordWrite (r : ScriptResult) (written : Except HostError Bool) :
    (recordWrite r written).name = r.name ∧ (recordWrite r written).path = r.path := by
  cases written with
  | error err => exact ⟨rfl, rfl⟩
  | ok isUpdated => cases isUpdated <;> exact ⟨rfl, rfl⟩

theorem named_of_runSession {r : ScriptResult}
    (finished : e.runSession path r s = (.finished result, h')) :
    result.name = r.name ∧ result.path = r.path := by
  rw [runSession] at finished
  split at finished
  · obtain ⟨_, -, rfl⟩ := conclude_eq_finished finished
    exact named_recordWrite r _
  · obtain ⟨_, -, rfl⟩ := conclude_eq_finished finished
    exact ⟨rfl, rfl⟩
  · obtain ⟨_, -, rfl⟩ := conclude_eq_finished finished
    exact ⟨rfl, rfl⟩
  · cases finished
  · cases finished

/-- The result of a run reports how its session ended. -/
theorem run_finished (prepared : e.prepare name path h.time.1 h.time.2 = .ok s)
    (finished : e.run name path h = (.finished result, h')) :
    Reports path (e.execute s) result := by
  rw [run] at finished
  simp only [runUntimed, prepared] at finished
  cases ran : e.runSession path (.new name path) s with
  | mk ending host =>
    rw [ran] at finished
    cases ending with
    | finished inner =>
      cases finished
      exact (runSession_finished ran).congr rfl
    | panicked => cases finished
    | endless => cases finished

/-- A result is about the script that has been run. -/
theorem named_of_run (finished : e.run name path h = (.finished result, h')) :
    result.name = name ∧ result.path = path := by
  rw [run] at finished
  simp only [runUntimed] at finished
  cases prepared : e.prepare name path h.time.1 h.time.2 with
  | error ended =>
    obtain ⟨ending, host⟩ := ended
    rw [prepared] at finished
    cases ending with
    | finished inner =>
      cases finished
      obtain ⟨line, message, rfl⟩ := fail_of_prepare prepared
      exact ⟨rfl, rfl⟩
    | panicked => cases finished
    | endless => cases finished
  | ok s =>
    cases ran : e.runSession path (.new name path) s with
    | mk ending host =>
      simp only [prepared, ran] at finished
      cases ending with
      | finished inner =>
        cases finished
        exact named_of_runSession ran
      | panicked => cases finished
      | endless => cases finished

/-- A script that cannot be written back was to be. -/
theorem writeBack_error {err : HostError} (failed : (writeBack path s).1 = .error err) :
    s.hasUpdated = true ∧
      (s.host.write path (Text.bytesOf s.script.toSource)).1 = .error err := by
  rw [writeBack] at failed
  split at failed
  · next updated =>
    split at failed
    · cases failed
    · next writes =>
      cases failed
      exact ⟨updated, by rw [writes]⟩
  · cases failed

/-- A script counts as updated if it has been written back. -/
theorem writeBack_updated (written : (writeBack path s).1 = .ok true) :
    s.hasUpdated = true ∧ (s.host.write path (Text.bytesOf s.script.toSource)).1 = .ok () := by
  rw [writeBack] at written
  split at written
  · next updated =>
    split at written
    · next writes => exact ⟨updated, by rw [writes]⟩
    · cases written
  · cases written

/-! ### A script on a host without programs -/

/-- A language that refuses all patterns. -/
def noPatterns : PatternLanguage :=
  fun _ => .error "no patterns"

/-- The script that is run. -/
def plainPath : Path := ⟨"/t.txt"⟩

def plainParams (canUpdate : Bool) : RunParams :=
  { RunParams.ofTarget plainPath with canUpdate := canUpdate }

/-- An engine with the built-in commands alone. -/
def plain (canUpdate : Bool) : Engine :=
  ⟨plainParams canUpdate, Registry.builtinWith noPatterns⟩

/-- A host that has a script, a folder for sandboxes, and nothing else. -/
def plainHost (source : String) : Host :=
  Session.hostOf (.file ['t', '.', 't', 'x', 't'] ⟨Text.bytesOf source, 0o644, false⟩
    (.folder ['t', 'm', 'p'] 0o755 .empty .empty))

/-- The session that a script is run in, if it can be prepared. -/
def plainSession? (canUpdate : Bool) (source : String) : Option Session :=
  ((plain canUpdate).prepare "t" plainPath (plainHost source).time.1
    (plainHost source).time.2).toOption

/-- The result of the run of a script, if it gives one. -/
def plainResult? (canUpdate : Bool) (source : String) : Option ScriptResult :=
  ((plain canUpdate).run "t" plainPath (plainHost source)).1.result?

theorem eq_ok_of_toOption {ε α : Type} {result : Except ε α} {a : α}
    (h : result.toOption = some a) : result = .ok a := by
  cases result with
  | error e => cases h
  | ok b => exact congrArg Except.ok (Option.some.inj h)

theorem prepare_of_plainSession? {canUpdate : Bool} {source : String}
    (h : plainSession? canUpdate source = some s) :
    (plain canUpdate).prepare "t" plainPath (plainHost source).time.1 (plainHost source).time.2 =
      .ok s :=
  eq_ok_of_toOption h

theorem run_of_plainResult? {canUpdate : Bool} {source : String}
    (h : plainResult? canUpdate source = some result) :
    ∃ h', (plain canUpdate).run "t" plainPath (plainHost source) = (.finished result, h') := by
  rw [plainResult?] at h
  cases ran : (plain canUpdate).run "t" plainPath (plainHost source) with
  | mk ended h' =>
    rw [ran] at h
    have finished : ended = .finished result := RunEnd.eq_finished_of_result? h
    exact ⟨h', by rw [finished]⟩

end Engine
end ScriptSuite
