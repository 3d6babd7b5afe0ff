import ScriptSuite.Host.Files
import ScriptSuite.Proofs.Host.Passing

/-!
What happens to the processes of a host.

Processes end and are let go of, but none is ever forgotten (`Grows`): whatever is done with
files, with the clock, with processes and with jobs, the numbers that have been given out stay
those of the processes they were given to. So a process that is started has a number that no
process had before (`start_fresh`).
-/

namespace ScriptSuite

namespace Host

/-- No process of the host has been forgotten. -/
def Grows (h h' : Host) : Prop :=
  h.processes.length ≤ h'.processes.length

namespace Grows

theorem refl (h : Host) : Grows h h :=
  Nat.le_refl _

theorem trans {h h' h'' : Host} (first : Grows h h') (second : Grows h' h'') : Grows h h'' :=
  Nat.le_trans first second

theorem of_eq {h h' : Host} (same : h'.processes = h.processes) : Grows h h' :=
  Nat.le_of_eq (congrArg List.length same.symm)

end Grows

/-! ### Files -/

section

variable (h : Host)

theorem updated_grows (result : Except Refusal Node) : Grows h (h.updated result).2 := by
  cases result <;> exact .refl h

theorem write_grows (p : Path) (data : Bytes) : Grows h (h.write p data).2 := by
  rw [write]
  split <;> exact .refl h

theorem makeFolders_grows (p : Path) : Grows h (h.makeFolders p).2 := by
  rw [makeFolders]
  split
  · exact .refl h
  · split
    · exact .refl h
    · exact updated_grows h _

theorem copy_grows (source target : Path) : Grows h (h.copy source target).2 := by
  have emptied := write_grows h target []
  rw [copy]
  split
  · exact .refl h
  · exact .refl h
  · split
    · exact .refl h
    · split
      · next wrote => rwa [wrote] at emptied
      · next wrote =>
        rw [wrote] at emptied
        split
        · split
          · split <;> exact emptied
          · exact emptied
        · exact emptied
        · exact emptied

theorem move_grows (source target : Path) : Grows h (h.move source target).2 := by
  rw [move]
  split
  · exact .refl h
  · split
    · exact .refl h
    · exact updated_grows h _

theorem removeAll_grows (p : Path) : Grows h (h.removeAll p).2 := by
  rw [removeAll]
  split
  · exact .refl h
  · split
    · exact .refl h
    · split <;> exact .refl h

theorem setMode_grows (p : Path) (mode : Nat) : Grows h (h.setMode p mode).2 := by
  rw [setMode]
  split <;> exact .refl h

/-! ### Time -/

/-- No process is forgotten while time passes. -/
theorem passing_grows : Passing Grows where
  trans := Grows.trans
  same := by
    intro h h' _ inherits _
    exact Nat.le_of_eq inherits.count.symm
  resume := by
    intro h h' p _ before
    refine before.trans ?_
    rw [resume]
    split
    · simp only [Grows, List.length_append, List.length_map]
      omega
    · exact .refl h'

theorem time_grows : Grows h h.time.2 :=
  passing_grows.elapsing.time h

/-! ### Processes -/

/-- A process that is started gets a number that was not given out before. -/
theorem start_fresh (behaviour : Behaviour) :
    (h.start behaviour).1.id = h.processes.length ∧
      (h.start behaviour).2.processes.length = h.processes.length + 1 := by
  simp [start, record]

theorem start_grows (behaviour : Behaviour) : Grows h (h.start behaviour).2 := by
  rw [Grows, (start_fresh h behaviour).2]
  omega

theorem spawn_grows (l : Launch) : Grows h (h.spawn l).2 := by
  rw [spawn]
  split
  · exact .refl h
  · exact start_grows h _

theorem launch_grows (l : Launch) : Grows h (h.launch l).2 := by
  have spawned := spawn_grows h l
  rw [launch]
  split
  · next failed => rwa [failed] at spawned
  · next started => rwa [started] at spawned

theorem runForeground_grows (l : Launch) (deadline : Option Instant) :
    Grows h (h.runForeground l deadline).2 :=
  passing_grows.watching.runForeground launch_grows h l deadline

end

end Host

/-! ### Jobs -/

namespace Job

open Host (Grows)

variable (j : Job) (h : Host)

theorem start_grows (l : Launch) (name : Option String) (expectation : Expectation) :
    Grows h (start l name expectation h).2 := by
  have launched := h.launch_grows l
  rw [start]
  split
  · next failed => rwa [failed] at launched
  · next started => rwa [started] at launched

theorem isRunning_grows : Grows h (j.isRunning h).2 :=
  j.isRunning_watching Host.passing_grows.watching h

theorem signal_grows (signal : Signal) : Grows h (j.signal signal h).2 :=
  j.signal_passing Host.passing_grows signal h

theorem wait_grows (timeout : Duration) : Grows h (j.wait timeout h).2.2 :=
  j.wait_watching Host.passing_grows.watching timeout h

end Job
end ScriptSuite
