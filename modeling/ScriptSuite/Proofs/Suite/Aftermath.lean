import ScriptSuite.Proofs.Session.Teardown
import ScriptSuite.Proofs.Suite.Accounting
import ScriptSuite.Proofs.Suite.Finish

/-!
What is left of a run.

However the instructions of a script end, its session is torn down, and after that its sandbox is
removed (`run_host`). So no job outlives a run unless it outlives a kill, and then the result
warns of it and is what it would have been otherwise (`run_ends_jobs`).
-/

namespace ScriptSuite.Engine

open Session (Closes close_teardown)

variable {e : Engine} {name : String} {path : Location} {h : Host} {s : Session}

/-- The session that is torn down when the instructions of a script have ended. -/
def written (path : Location) : ScriptEnd × Session → Session
  | (.halts .completed, t) => (writeBack path t).2
  | (_, t) => t

theorem jobs_written (path : Location) (ended : ScriptEnd × Session) :
    (written path ended).jobs = ended.2.jobs := by
  obtain ⟨ending, t⟩ := ended
  unfold written
  split
  · next same =>
    cases same
    rw [writeBack]
    split
    · split <;> rfl
    · rfl
  · next same =>
    cases same
    rfl

/-- How a run ends whose session has been torn down. What becomes of its jobs is told by the
warnings alone. -/
inductive Aftermath (path : Location) (ended : ScriptEnd × Session) (u : Session) : RunEnd → Prop where
  | finished {r : ScriptResult} : Reports path ended r → r.warnings = u.warnings →
      Aftermath path ended u (.finished r)
  | panicked : ended.1 = .panics → Aftermath path ended u .panicked
  | endless : ended.1 = .endless → Aftermath path ended u .endless

theorem conclude_host (r : ScriptResult) (s : Session) : (conclude r s).2 = s.close := by
  rw [conclude, ← close_teardown]
  split <;> next torn => rw [torn]

theorem conclude_of_teardown (r : ScriptResult) (torn : s.teardown.1 = true) :
    (conclude r s).1 =
      .finished { r with warnings := s.teardown.2.warnings, log := s.teardown.2.log } := by
  rw [conclude]
  generalize s.teardown = ended at torn ⊢
  obtain ⟨done, t⟩ := ended
  cases torn
  rfl

/-- However a session ends, it is closed. -/
theorem runSession_host (e : Engine) (path : Location) (r : ScriptResult) (s : Session) :
    (e.runSession path r s).2 = (written path (e.execute s)).close := by
  rw [runSession]
  cases ended : e.execute s with
  | mk ending t =>
    cases ending with
    | halts halt => cases halt <;> exact conclude_host _ _
    | fails line err => exact conclude_host _ t
    | panics => rfl
    | endless => rfl

/-- A session whose jobs have ended reports how its instructions did. -/
theorem aftermath_runSession (e : Engine) (name : String) (path : Location)
    (torn : (written path (e.execute s)).teardown.1 = true) :
    Aftermath path (e.execute s) (written path (e.execute s)).teardown.2
      (e.runSession path (.new name path) s).1 := by
  rw [runSession]
  cases ended : e.execute s with
  | mk ending t =>
    rw [ended] at torn
    cases ending with
    | halts halt =>
      cases halt with
      | completed =>
        have told := conclude_of_teardown
          (recordWrite (.new name path) (writeBack path t).1) torn
        exact told ▸ .finished ((reports_recordWrite name t).congr rfl) rfl
      | skipped reason =>
        have told := conclude_of_teardown ((ScriptResult.new name path).skip reason) torn
        exact told ▸ .finished (.skipped rfl) rfl
    | fails line err =>
      have told := conclude_of_teardown ((ScriptResult.new name path).fail line err.message) torn
      exact told ▸ .finished (.failed rfl) rfl
    | panics => exact .panicked rfl
    | endless => exact .endless rfl

/-- A run leaves the host as its session does when it is closed, but for a last look at the clock. -/
theorem run_host (prepared : e.prepare name path h.time.1 h.time.2 = .ok s) :
    (e.run name path h).2 = (written path (e.execute s)).close ∨
      (e.run name path h).2 = (written path (e.execute s)).close.time.2 := by
  rw [run, ← runSession_host e path (.new name path) s]
  simp only [runUntimed, prepared]
  generalize e.runSession path (.new name path) s = ran
  obtain ⟨ending, host⟩ := ran
  cases ending with
  | finished result => exact .inr rfl
  | panicked => exact .inl rfl
  | endless => exact .inl rfl

theorem aftermath_run (prepared : e.prepare name path h.time.1 h.time.2 = .ok s)
    (torn : (written path (e.execute s)).teardown.1 = true) :
    Aftermath path (e.execute s) (written path (e.execute s)).teardown.2
      (e.run name path h).1 := by
  have after := aftermath_runSession e name path torn
  rw [run]
  simp only [runUntimed, prepared]
  generalize e.runSession path (.new name path) s = ran at after ⊢
  obtain ⟨ending, host⟩ := ran
  cases after with
  | finished reports warnings => exact .finished (reports.congr rfl) warnings
  | panicked panics => exact .panicked panics
  | endless never => exact .endless never

theorem clock_removeSandbox (h : Host) (p : Path) : (h.removeSandbox p).clock = h.clock := by
  rw [Host.removeSandbox]
  split <;> rfl

/-- A deadline that can be represented could be before. -/
theorem plus?_isSome_of_le {t t' : Instant} {d : Duration}
    (later : t.nanoseconds ≤ t'.nanoseconds) (representable : (t'.plus? d).isSome) :
    t.plus? d ≠ none := by
  rw [ne_eq, Instant.plus?_eq_none_iff, Nat.not_le]
  have before := Option.isSome_iff_ne_none.mp representable
  rw [ne_eq, Instant.plus?_eq_none_iff, Nat.not_le] at before
  refine Nat.lt_of_le_of_lt (Nat.div_le_div_right ?_) before
  exact Nat.add_le_add_right later _

/-- However a run ends whose session has been set up, each job of the session is then found to
have ended or sent a kill, once and whatever comes of the others, and after that the sandbox is
removed. Errors are told as warnings, and do not matter to the outcome. -/
theorem run_ends_jobs (prepared : e.prepare name path h.time.1 h.time.2 = .ok s)
    (representable : ((e.run name path h).2.clock.now.plus?
      (written path (e.execute s)).teardownGrace).isSome) :
    (written path (e.execute s)).jobs = (e.execute s).2.jobs ∧
    ∃ errors u, (written path (e.execute s)).Closes errors u ∧
      ((e.run name path h).2 = u.host.removeSandbox u.workDir ∨
        (e.run name path h).2 = (u.host.removeSandbox u.workDir).time.2) ∧
      Aftermath path (e.execute s) u (e.run name path h).1 := by
  refine ⟨jobs_written path _, ?_⟩
  have host := run_host prepared
  have later : (written path (e.execute s)).teardown.2.host.clock.now.nanoseconds ≤
      (e.run name path h).2.clock.now.nanoseconds := by
    have closed : (written path (e.execute s)).close.clock =
        (written path (e.execute s)).teardown.2.host.clock := clock_removeSandbox _ _
    rw [← closed]
    rcases host with same | timed
    · rw [same]
    · rw [timed]
      exact (Host.elapsing_lapses.time _).later
  rcases (written path (e.execute s)).teardown_cases with ⟨errors, torn, closes⟩ | ⟨-, overflow⟩
  · exact ⟨errors, _, closes, host, aftermath_run prepared torn⟩
  · exact absurd overflow (plus?_isSome_of_le later representable)

/-! ### A job that does not end -/

/-- An engine that gives killed jobs no time to end. -/
def graceless : Engine :=
  ⟨{ plainParams false with teardownGrace := .zero }, Registry.builtinWith noPatterns⟩

/-- One job has ended when the instructions come to their end, and another is still running. -/
def lateSource : String := "exec p &a&\nexec p x y &b&\nexec p &c&\nwait c\n"

def lateHost : Host :=
  programHost lateSource

/-- The first job is found to have ended, and the second outlives the kill, which leaves a warning
and a script that has passed. -/
theorem run_ends_jobs_late :
    ∃ s errors u result,
      graceless.prepare "t" plainPath lateHost.time.1 lateHost.time.2 = .ok s ∧
      (graceless.execute s).2.jobs.map Job.number = [0, 1] ∧
      (written plainPath (graceless.execute s)).Closes errors u ∧
      (graceless.run "t" plainPath lateHost).1 = .finished result ∧ result.outcome = .passed ∧
      u.warnings = ["p did not exit within 0.00ns of being killed"] := by
  have session : (graceless.prepare "t" plainPath lateHost.time.1 lateHost.time.2).toOption.map
      (fun s => ((graceless.execute s).2.jobs.map Job.number,
        ((graceless.run "t" plainPath lateHost).2.clock.now.plus?
          (written plainPath (graceless.execute s)).teardownGrace).isSome)) =
            some ([0, 1], true) := by decide +kernel
  have told : (graceless.run "t" plainPath lateHost).1.result?.map
      (fun result => (result.outcome, result.warnings)) =
        some (.passed, ["p did not exit within 0.00ns of being killed"]) := by decide +kernel
  obtain ⟨s, found, both⟩ := Option.map_eq_some_iff.mp session
  obtain ⟨result, finished, facts⟩ := Option.map_eq_some_iff.mp told
  obtain ⟨jobs, representable⟩ := Prod.mk.inj both
  obtain ⟨outcome, warnings⟩ := Prod.mk.inj facts
  have prepared := eq_ok_of_toOption found
  obtain ⟨-, errors, u, closes, -, after⟩ := run_ends_jobs prepared representable
  have ended := RunEnd.eq_finished_of_result? finished
  rw [ended] at after
  cases after with
  | finished reports same =>
    exact ⟨s, errors, u, result, prepared, jobs, closes, ended, outcome, same ▸ warnings⟩

end ScriptSuite.Engine
