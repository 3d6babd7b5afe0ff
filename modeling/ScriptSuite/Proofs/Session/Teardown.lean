import ScriptSuite.Proofs.Command.Jobs
import ScriptSuite.Proofs.Host.Lapse
import ScriptSuite.Proofs.Session.Sandbox

/-!
What becomes of the jobs of a session.

A job that is terminated has been seen to end, or it is sent a kill; only a killed process that
is not seen to end in time is an error (`Job.Ends`). When a session is torn down this happens to
each of its jobs once, one after another, whatever comes of the others (`EndsAll`), and each error
is one warning (`Closes`). The one exception is a deadline that cannot be represented.
-/

namespace ScriptSuite

open Host (SeesEnd)

/-- How a job ends when it is terminated, with the error that is told of it. -/
inductive Job.Ends (grace : Duration) (j : Job) (h : Host) : Option JobError → Host → Prop where
  /-- Its output has been collected before. -/
  | collected : j.output.isSome → Ends grace j h none h
  | found {h' : Host} : SeesEnd j.number h h' → Ends grace j h none h'
  /-- It was still running, and it has ended since it was sent a kill. -/
  | killed {middle h' : Host} {live : Bool} :
      middle.journal = .signalled j.number .kill live :: h.journal →
      ((h.process? j.number).isSome → live = true) → SeesEnd j.number middle h' →
      Ends grace j h none h'
  /-- It has been sent a kill, and has not been seen to end. -/
  | survives {h' : Host} {live : Bool} :
      h'.journal = .signalled j.number .kill live :: h.journal →
      ((h.process? j.number).isSome → live = true) →
      Ends grace j h (some (.stillRunning j.program grace)) h'

/-- Jobs end one after another. -/
inductive Job.EndsAll (grace : Duration) :
    List Job → Host → List (Option JobError) → Host → Prop where
  | nil (h : Host) : EndsAll grace [] h [] h
  | cons {j : Job} {rest : List Job} {error : Option JobError} {errors : List (Option JobError)}
      {h h' h'' : Host} : j.Ends grace h error h' → EndsAll grace rest h' errors h'' →
      EndsAll grace (j :: rest) h (error :: errors) h''

namespace Job

/-- What the termination of a job gives for an error. -/
def terminated : Option JobError → Except JobFault Unit
  | none => .ok ()
  | some e => .error (.error e)

/-- Whoever waits for an end either sees it or reaches the limit without having seen it. -/
theorem pollGone_cases (id : ProcessId) (limit : Instant) (looks : Nat) (h : Host) :
    ((pollGone id limit looks h).1 = true ∧ SeesEnd id h (pollGone id limit looks h).2) ∨
      ((pollGone id limit looks h).1 = false ∧ h.Lapses (pollGone id limit looks h).2) := by
  induction looks generalizing h with
  | zero => exact .inr ⟨rfl, .refl h⟩
  | succ looks ih =>
    have timed := Host.elapsing_lapses.time h
    rw [pollGone]
    generalize h.time = time at timed ⊢
    obtain ⟨now, h₁⟩ := time
    simp only
    split
    · exact .inr ⟨rfl, timed⟩
    · rcases h₁.collect_cases id with ⟨status, ended, seen⟩ | ⟨runs, looked, -⟩
      · generalize h₁.collect id = collected at ended seen ⊢
        obtain ⟨found, h₂⟩ := collected
        cases ended
        exact .inl ⟨rfl, seen.after timed⟩
      · have lapses := timed.trans ((Host.elapsing_lapses.look h₁).trans
          (Host.elapsing_lapses.sleep h₁.look pollInterval))
        generalize h₁.collect id = collected at runs looked ⊢
        obtain ⟨found, h₂⟩ := collected
        cases runs
        obtain rfl : h₂ = h₁.look := looked
        rcases ih (h₁.look.sleep pollInterval) with ⟨gone, seen⟩ | ⟨stays, lapsed⟩
        · exact .inl ⟨gone, seen.after lapses⟩
        · exact .inr ⟨stays, lapses.trans lapsed⟩

/-- A job that is terminated ends, unless its deadline cannot be represented. -/
theorem terminate_cases (j : Job) (grace : Duration) (h : Host) :
    (∃ error, j.Ends grace h error (j.terminate grace h).2 ∧
        (j.terminate grace h).1 = terminated error) ∨
      ((j.terminate grace h).1 = .error .overflow ∧
        (j.terminate grace h).2.clock.now.plus? grace = none) := by
  rw [terminate, isRunning]
  by_cases done : j.output.isSome = true
  · rw [if_pos done]
    exact .inl ⟨none, .collected done, rfl⟩
  · rw [if_neg done]
    rcases h.collect_cases j.process.id with ⟨status, ended, seen⟩ | ⟨runs, looked, running⟩
    · generalize h.collect j.process.id = collected at ended seen ⊢
      obtain ⟨found, h₁⟩ := collected
      cases ended
      exact .inl ⟨none, .found seen, rfl⟩
    · have lapses := Host.elapsing_lapses.look h
      have sent := Host.kill_of_running running
      generalize h.collect j.process.id = collected at runs looked ⊢
      obtain ⟨found, h₁⟩ := collected
      cases runs
      obtain rfl : h₁ = h.look := looked
      have known : (h.process? j.number).isSome →
          (h.look.process? j.process.id).isSome = true := lapses.known _
      rw [lapses.journal] at sent
      have timed := Host.elapsing_lapses.time (h.look.kill j.process.id)
      simp only [Option.isNone_none]
      cases overflow : ((h.look.kill j.process.id).time.1).plus? grace with
      | none => exact .inr ⟨rfl, overflow⟩
      | some limit =>
        simp only
        rcases pollGone_cases j.process.id limit (looksFor grace)
          (h.look.kill j.process.id).time.2 with ⟨gone, seen⟩ | ⟨stays, lapsed⟩
        · generalize pollGone j.process.id limit _ _ = polled at gone seen ⊢
          obtain ⟨end_, h₂⟩ := polled
          cases gone
          exact .inl ⟨none, .killed sent known (seen.after timed), rfl⟩
        · generalize pollGone j.process.id limit _ _ = polled at stays lapsed ⊢
          obtain ⟨end_, h₂⟩ := polled
          cases stays
          have journal := (timed.trans lapsed).journal.trans sent
          exact .inl ⟨_, .survives journal known, rfl⟩

end Job

namespace Session

open Job (EndsAll terminated)

/-- Jobs that are ended end one after another, each error as one warning, unless a deadline cannot
be represented. -/
theorem endJobs_cases (grace : Duration) (jobs : List Job) (warnings : List String) (h : Host) :
    (∃ errors, EndsAll grace jobs h errors (endJobs grace jobs warnings h).2 ∧
        (endJobs grace jobs warnings h).1 =
          some (warnings ++ errors.filterMap (Option.map JobError.message))) ∨
      ((endJobs grace jobs warnings h).1 = none ∧
        (endJobs grace jobs warnings h).2.clock.now.plus? grace = none) := by
  induction jobs generalizing warnings h with
  | nil => exact .inl ⟨[], .nil h, by simp [endJobs]⟩
  | cons job rest ih =>
    rw [endJobs]
    rcases job.terminate_cases grace h with ⟨error, ends, result⟩ | ⟨result, overflow⟩
    · generalize job.terminate grace h = ended at ends result ⊢
      obtain ⟨found, h'⟩ := ended
      cases error with
      | none =>
        cases result
        rcases ih warnings h' with ⟨errors, all, warned⟩ | failed
        · exact .inl ⟨none :: errors, .cons ends all, warned⟩
        · exact .inr failed
      | some e =>
        cases result
        rcases ih (warnings ++ [e.message]) h' with ⟨errors, all, warned⟩ | failed
        · refine .inl ⟨some e :: errors, .cons ends all, ?_⟩
          rw [warned, List.append_assoc]
          rfl
        · exact .inr failed
    · generalize job.terminate grace h = ended at result overflow ⊢
      obtain ⟨found, h'⟩ := ended
      cases result
      exact .inr ⟨rfl, overflow⟩

/-- A session has been torn down: its jobs have ended, and their errors are its warnings. -/
structure Closes (s : Session) (errors : List (Option JobError)) (t : Session) : Prop where
  ends : EndsAll s.teardownGrace s.jobs s.host errors t.host
  jobs : t.jobs = []
  warnings : t.warnings = s.warnings ++ errors.filterMap (Option.map JobError.message)
  workDir : t.workDir = s.workDir

/-- A session that has been torn down has no jobs, and all of them have ended unless a deadline
cannot be represented. -/
theorem teardown_cases (s : Session) :
    (∃ errors, s.teardown.1 = true ∧ s.Closes errors s.teardown.2) ∨
      (s.teardown.1 = false ∧ s.teardown.2.host.clock.now.plus? s.teardownGrace = none) := by
  rw [teardown]
  rcases endJobs_cases s.teardownGrace s.jobs s.warnings s.host with
    ⟨errors, all, warned⟩ | ⟨failed, overflow⟩
  · generalize endJobs _ _ _ _ = ended at all warned ⊢
    obtain ⟨warnings, h⟩ := ended
    cases warned
    exact .inl ⟨errors, rfl, all, rfl, rfl, rfl⟩
  · generalize endJobs _ _ _ _ = ended at failed overflow ⊢
    obtain ⟨warnings, h⟩ := ended
    cases failed
    exact .inr ⟨rfl, overflow⟩

/-- No job is left after the teardown, be it that one would not die. -/
theorem jobs_teardown (s : Session) : s.teardown.2.jobs = [] := by
  rw [teardown]
  split <;> rfl

/-- It makes no difference to tear a session down again. -/
theorem close_teardown (s : Session) : s.teardown.2.close = s.close := by
  have again : s.teardown.2.teardown.2.host = s.teardown.2.host := by
    rw [teardown, jobs_teardown]
    rfl
  rw [close, close]
  simp only [again, workDir_teardown]

end Session
end ScriptSuite
