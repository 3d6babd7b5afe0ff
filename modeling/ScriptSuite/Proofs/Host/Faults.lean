import ScriptSuite.Job.Basic
import ScriptSuite.Session.Error

/-!
What can go wrong with programs.

A program that is started, waited for or sent a signal fails with an error of its own, or is waited
for in vain; it is never for a point in time that cannot be represented (`JobFault.Timely`). Only
the end of a session has to do with such points.
-/

namespace ScriptSuite

/-- A fault that is not about a point in time. -/
def JobFault.Timely (fault : JobFault) : Prop :=
  fault ≠ .overflow

theorem JobFault.timely_error (e : JobError) : (JobFault.error e).Timely :=
  nofun

theorem JobFault.Timely.interrupt_ne {fault : JobFault} (timely : fault.Timely) :
    fault.interrupt ≠ .panic := by
  cases fault with
  | error e => exact nofun
  | overflow => exact absurd rfl timely
  | endless => exact nofun

namespace Host

variable {h h' : Host} {l : Launch} {fault : JobFault}

/-- To start a program never gives rise to a point in time that cannot be represented. -/
theorem launch_error (failed : h.launch l = (.error fault, h')) : fault.Timely := by
  rw [launch] at failed
  split at failed
  · cases failed
    exact JobFault.timely_error _
  · cases failed

/-- A program that runs to its end may time out or never end, but no point in time overflows. -/
theorem runForeground_error {deadline : Option Instant}
    (failed : h.runForeground l deadline = (.error fault, h')) : fault.Timely := by
  rw [runForeground] at failed
  generalize h.time = looked at failed
  obtain ⟨start, h₁⟩ := looked
  cases launched : h₁.launch l with
  | mk result h₂ =>
    simp only [launched] at failed
    cases result with
    | error e =>
      cases failed
      exact launch_error launched
    | ok p =>
      cases deadline with
      | none =>
        simp only at failed
        split at failed
        · cases failed
          exact nofun
        · cases failed
      | some limit =>
        simp only at failed
        split at failed
        · cases failed
        · cases failed
          exact JobFault.timely_error _

end Host

namespace Job

variable {h h' : Host} {fault : JobFault}

theorem start_timely {l : Launch} {name : Option String} {expectation : Expectation}
    (failed : start l name expectation h = (.error fault, h')) : fault.Timely := by
  rw [start] at failed
  split at failed
  · next launched =>
    cases failed
    exact Host.launch_error launched
  · cases failed

theorem signal_timely {j : Job} {signal : Signal}
    (failed : j.signal signal h = (.error fault, h')) : fault.Timely := by
  rw [Job.signal] at failed
  split at failed
  · cases failed
    exact JobFault.timely_error _
  · cases failed

/-- A job that does not end in time goes on. -/
theorem wait_error {j j' : Job} {timeout : Duration}
    (waited : j.wait timeout h = (.error fault, j', h')) :
    j' = j ∧ ∃ after, fault = .error (.timeout j.program after) := by
  rw [wait] at waited
  cases collected : j.output with
  | some known =>
    rw [collected] at waited
    cases waited
  | none =>
    rw [collected] at waited
    generalize h.time = looked at waited
    obtain ⟨start, h₁⟩ := looked
    simp only at waited
    generalize Host.pollEnd j.process.id _ _ _ = ended at waited
    obtain ⟨_ | status, h₂⟩ := ended
    · simp only at waited
      generalize h₂.time = looked at waited
      obtain ⟨now, h₃⟩ := looked
      cases waited
      exact ⟨rfl, _, rfl⟩
    · simp only at waited
      generalize h₂.outputOf j.process status = read at waited
      cases waited

/-- Nor does one overflow in a wait, however long that may take. -/
theorem wait_timely {j j' : Job} {timeout : Duration}
    (waited : j.wait timeout h = (.error fault, j', h')) : fault.Timely := by
  obtain ⟨-, after, rfl⟩ := wait_error waited
  exact JobFault.timely_error _

end Job
end ScriptSuite
