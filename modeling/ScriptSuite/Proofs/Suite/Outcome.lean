import ScriptSuite.Proofs.Suite.Course
import ScriptSuite.Proofs.Suite.Finish
import ScriptSuite.Proofs.Suite.Step

/-!
What a run without a time limit comes to.

The instructions are run in order, up to the first that ends the run: `Proceeds` says how far
it has come, and counts the handlers that have been called. The outcome of the script is then
told by the instruction that ended it (`outcome_iff`).
-/

namespace ScriptSuite

open Handler Session

namespace Engine

/-! ### The course of a run -/

/-- The run gets through all of these instructions, from the session `s` to `t`, and calls so
many handlers. -/
inductive Proceeds (e : Engine) : List Instruction → Session → Nat → Session → Prop where
  | nil {s : Session} : Proceeds e [] s 0 s
  | inactive {inst : Instruction} {rest : List Instruction} {s t : Session} {n : Nat} :
      e.conditionsHold s inst = .ok false → Proceeds e rest s n t →
      Proceeds e (inst :: rest) s n t
  | active {inst : Instruction} {rest : List Instruction} {s u t : Session} {n : Nat} :
      e.Continues s inst u → Proceeds e rest u n t → Proceeds e (inst :: rest) s (n + 1) t

section

variable {e : Engine} {s t : Session} {inst : Instruction} {insts : List Instruction}

/-- What the handler of an instruction leaves: some instruction has been run, and all else that
the run relies on is as before. -/
theorem Answers.steady (keeps : e.Keeps Steady) {answer : Answer}
    (h : e.Answers s inst answer) :
    (sessionAfter answer).hasStarted = true ∧ (sessionAfter answer).deadline = s.deadline := by
  cases h with
  | @call c arguments t active found takes expands =>
    have expanded := expandAll_tolerated (R := Reaches) inst.arguments (announced s inst)
    rw [expands] at expanded
    have before := (announced_steady s inst).trans expanded.steady
    have called := (keeps inst.name c found inst.expectation.isNegated arguments
      { t with hasStarted := true, expectation := inst.expectation, isDeferred := false }).after
    exact ⟨called.started, called.deadline.trans before.deadline⟩

theorem Continues.steady (keeps : e.Keeps Steady) (h : e.Continues s inst t) :
    t.hasStarted = true ∧ t.deadline = s.deadline := by
  cases h with
  | succeeded answers _ => exact answers.steady keeps
  | failed answers _ _ => exact answers.steady keeps

/-- A handler has been called if and only if the session says so. -/
theorem Proceeds.started (keeps : e.Keeps Steady) {n : Nat} (h : e.Proceeds insts s n t) :
    t.deadline = s.deadline ∧ t.hasStarted = (s.hasStarted || decide (0 < n)) := by
  induction h with
  | nil => simp
  | inactive _ _ ih => exact ih
  | active continues _ ih =>
    obtain ⟨started, deadline⟩ := continues.steady keeps
    exact ⟨ih.1.trans deadline, by simp [ih.2, started]⟩

/-- Instructions that the run gets through only lead to the next one. -/
theorem Proceeds.runInstructions (keeps : e.Keeps Steady) (noLimit : s.deadline = none)
    {n : Nat} (h : e.Proceeds insts s n t) (rest : List Instruction) :
    e.runInstructions (insts ++ rest) s = e.runInstructions rest t := by
  induction h with
  | nil => rfl
  | inactive holds _ ih =>
    rw [List.cons_append, Engine.runInstructions, step_of_inactive noLimit holds]
    exact ih noLimit
  | active continues _ ih =>
    rw [List.cons_append, Engine.runInstructions,
      (step_goesOn_iff noLimit).mpr (.inr continues)]
    exact ih ((continues.steady keeps).2.trans noLimit)

/-- How the run ends if an instruction ends it. -/
def endAt (line : Nat) : StepEnd → ScriptEnd
  | .goesOn => .halts .completed
  | .halts halt => .halts halt
  | .fails err => .fails (some line) err
  | .panics => .panics
  | .endless => .endless

/-- An instruction that does not go on ends the run, whatever would follow it. -/
theorem runInstructions_of_ends {rest : List Instruction}
    (ends : (e.step inst s).1 ≠ .goesOn) :
    (e.runInstructions (inst :: rest) s).1 = endAt inst.line (e.step inst s).1 := by
  rw [runInstructions]
  cases h : e.step inst s with
  | mk ending t =>
    rw [h] at ends
    cases ending with
    | goesOn => contradiction
    | halts halt => rfl
    | fails err => rfl
    | panics => rfl
    | endless => rfl

/-- The run comes to the instruction `inst` of the list, in the session `u` and after so many
handlers have been called. -/
def Arrives (e : Engine) (insts : List Instruction) (s : Session) (inst : Instruction) (n : Nat)
    (u : Session) : Prop :=
  ∃ before after, insts = before ++ inst :: after ∧ e.Proceeds before s n u

theorem Arrives.started (keeps : e.Keeps Steady) {n : Nat} {u : Session}
    (h : e.Arrives insts s inst n u) :
    u.deadline = s.deadline ∧ u.hasStarted = (s.hasStarted || decide (0 < n)) := by
  obtain ⟨before, after, -, course⟩ := h
  exact course.started keeps

/-- If the instructions arrive at one that does not go on, the run ends as that does, with its
line. -/
theorem Arrives.runInstructions (keeps : e.Keeps Steady) (noLimit : s.deadline = none) {n : Nat}
    {u : Session} (h : e.Arrives insts s inst n u) (ends : (e.step inst u).1 ≠ .goesOn) :
    (e.runInstructions insts s).1 = endAt inst.line (e.step inst u).1 := by
  obtain ⟨before, after, rfl, course⟩ := h
  rw [course.runInstructions keeps noLimit, runInstructions_of_ends ends]

/-- If all instructions go on the run is completed. -/
theorem Proceeds.completes (keeps : e.Keeps Steady) (noLimit : s.deadline = none) {n : Nat}
    (h : e.Proceeds insts s n t) : e.runInstructions insts s = (.halts .completed, t) := by
  have run := h.runInstructions keeps noLimit []
  rw [List.append_nil] at run
  exact run

/-- The run gets through all instructions, or comes to one that ends it. -/
theorem proceeds_or_arrives (keeps : e.Keeps Steady) (noLimit : s.deadline = none)
    (insts : List Instruction) :
    (∃ n t, e.Proceeds insts s n t) ∨
      ∃ inst n u, e.Arrives insts s inst n u ∧ (e.step inst u).1 ≠ .goesOn := by
  induction insts generalizing s with
  | nil => exact .inl ⟨0, s, .nil⟩
  | cons inst rest ih =>
    cases h : e.step inst s with
    | mk ending t =>
      by_cases goesOn : ending = .goesOn
      · subst goesOn
        rcases (step_goesOn_iff noLimit).mp h with ⟨holds, rfl⟩ | continues
        · rcases ih noLimit with ⟨n, u, all⟩ | ⟨last, n, u, ⟨before, after, rfl, course⟩, ends⟩
          · exact .inl ⟨n, u, .inactive holds all⟩
          · exact .inr ⟨last, n, u, ⟨inst :: before, after, rfl, .inactive holds course⟩, ends⟩
        · rcases ih ((continues.steady keeps).2.trans noLimit) with
            ⟨n, u, all⟩ | ⟨last, n, u, ⟨before, after, rfl, course⟩, ends⟩
          · exact .inl ⟨n + 1, u, .active continues all⟩
          · exact .inr
              ⟨last, n + 1, u, ⟨inst :: before, after, rfl, .active continues course⟩, ends⟩
      · exact .inr ⟨inst, 0, s, ⟨[], rest, rfl, .nil⟩, by rwa [h]⟩

/-! ### How instructions end -/

theorem endAt_eq_halts_iff {line : Nat} {ending : StepEnd} {halt : Halt}
    (ends : ending ≠ .goesOn) : endAt line ending = .halts halt ↔ ending = .halts halt := by
  cases ending <;> simp_all [endAt]

theorem endAt_eq_fails_iff {line : Nat} {ending : StepEnd} {found : Option Nat} {err : RunError} :
    endAt line ending = .fails found err ↔ ending = .fails err ∧ found = some line := by
  cases ending <;> simp [endAt, and_comm, eq_comm]

/-- The instructions end as the one does that ends the run, or they all have been run. -/
theorem runInstructions_iff (keeps : e.Keeps Steady) (noLimit : s.deadline = none)
    {ending : ScriptEnd} :
    (e.runInstructions insts s).1 = ending ↔
      (ending = .halts .completed ∧ ∃ n t, e.Proceeds insts s n t) ∨
        ∃ inst n u, e.Arrives insts s inst n u ∧ (e.step inst u).1 ≠ .goesOn ∧
          endAt inst.line (e.step inst u).1 = ending := by
  constructor
  · rintro rfl
    rcases proceeds_or_arrives keeps noLimit insts with ⟨n, t, all⟩ | ⟨inst, n, u, arrives, ends⟩
    · exact .inl ⟨by rw [all.completes keeps noLimit], n, t, all⟩
    · exact .inr ⟨inst, n, u, arrives, ends, (arrives.runInstructions keeps noLimit ends).symm⟩
  · rintro (⟨rfl, n, t, all⟩ | ⟨inst, n, u, arrives, ends, rfl⟩)
    · rw [all.completes keeps noLimit]
    · exact arrives.runInstructions keeps noLimit ends

/-- The instructions end with success if and only if the run gets through all of them or a
handler stops it. -/
theorem runInstructions_completed_iff (keeps : e.Keeps Steady) (noLimit : s.deadline = none) :
    (e.runInstructions insts s).1 = .halts .completed ↔
      (∃ n t, e.Proceeds insts s n t) ∨
        ∃ inst n u, e.Arrives insts s inst n u ∧ e.Stops u inst := by
  rw [runInstructions_iff keeps noLimit]
  constructor
  · rintro (⟨-, all⟩ | ⟨inst, n, u, arrives, ends, completed⟩)
    · exact .inl all
    · have limit := (arrives.started keeps).1.trans noLimit
      exact .inr ⟨inst, n, u, arrives,
        (step_completed_iff limit).mp ((endAt_eq_halts_iff ends).mp completed)⟩
  · rintro (all | ⟨inst, n, u, arrives, stops⟩)
    · exact .inl ⟨rfl, all⟩
    · have limit := (arrives.started keeps).1.trans noLimit
      have ending := (step_completed_iff limit).mpr stops
      exact .inr ⟨inst, n, u, arrives, by simp [ending], by rw [ending]; rfl⟩

/-- The script is skipped if and only if the first handler that is called wants it. -/
theorem runInstructions_skipped_iff (keeps : e.Keeps Steady) (noLimit : s.deadline = none)
    (fresh : s.hasStarted = false) {reason : String} :
    (e.runInstructions insts s).1 = .halts (.skipped reason) ↔
      ∃ inst u, e.Arrives insts s inst 0 u ∧ e.Skips u inst reason := by
  rw [runInstructions_iff keeps noLimit]
  constructor
  · rintro (⟨other, -⟩ | ⟨inst, n, u, arrives, ends, skipped⟩)
    · cases other
    · obtain ⟨limit, started⟩ := arrives.started keeps
      obtain ⟨first, skips⟩ := (step_skipped_iff (limit.trans noLimit)).mp
        ((endAt_eq_halts_iff ends).mp skipped)
      have none : n = 0 := by simpa [fresh, first] using started
      exact ⟨inst, u, none ▸ arrives, skips⟩
  · rintro ⟨inst, u, arrives, skips⟩
    obtain ⟨limit, started⟩ := arrives.started keeps
    have first : u.hasStarted = false := by simpa [fresh] using started
    have ending := (step_skipped_iff (limit.trans noLimit)).mpr ⟨first, skips⟩
    exact .inr ⟨inst, 0, u, arrives, by simp [ending], by rw [ending]; rfl⟩

/-- The instructions fail if and only if the run comes to one that fails, and then at its
line. -/
theorem runInstructions_fails_iff (keeps : e.Keeps Steady) (noLimit : s.deadline = none)
    {line : Option Nat} {err : RunError} :
    (e.runInstructions insts s).1 = .fails line err ↔
      ∃ inst n u, e.Arrives insts s inst n u ∧ e.Breaks u inst err ∧ line = some inst.line := by
  rw [runInstructions_iff keeps noLimit]
  constructor
  · rintro (⟨other, -⟩ | ⟨inst, n, u, arrives, ends, fails⟩)
    · cases other
    · have limit := (arrives.started keeps).1.trans noLimit
      obtain ⟨ending, line⟩ := endAt_eq_fails_iff.mp fails
      exact ⟨inst, n, u, arrives, (step_fails_iff limit).mp ending, line⟩
  · rintro ⟨inst, n, u, arrives, breaks, line⟩
    have limit := (arrives.started keeps).1.trans noLimit
    have ending := (step_fails_iff limit).mpr breaks
    exact .inr ⟨inst, n, u, arrives, by simp [ending], endAt_eq_fails_iff.mpr ⟨ending, line⟩⟩

/-! ### The outcome of a script -/

/-- The setup has succeeded, and has left the session `t`. -/
def Ready (e : Engine) (s t : Session) : Prop :=
  match e.params.setup with
  | none => t = s
  | some hook => hook.run s = .ok () t

/-- What the hook keeps holds between the sessions before and after the setup. -/
theorem Ready.keeps {R : Session → Session → Prop} (refl : ∀ s, R s s) (h : e.Ready s t)
    (setup : ∀ hook, e.params.setup = some hook → Handler.Keeps R hook) : R s t := by
  rw [Ready] at h
  split at h
  · rw [h]
    exact refl s
  · next hook found =>
    have kept := (setup hook found s).after
    rw [h] at kept
    exact kept

theorem Ready.steady (h : e.Ready s t)
    (setup : ∀ hook, e.params.setup = some hook → Handler.Keeps Steady hook) : Steady s t :=
  h.keeps Steady.refl setup

theorem Ready.runs (h : e.Ready s t) :
    e.execute s = e.runInstructions t.script.instructions t := by
  rw [Ready] at h
  rw [Engine.execute]
  cases found : e.params.setup with
  | none =>
    rw [found] at h
    rw [h]
  | some hook =>
    rw [found] at h
    simp only [h]

theorem Ready.execute (h : e.Ready s t)
    (setup : ∀ hook, e.params.setup = some hook → Handler.Keeps Steady hook) :
    e.execute s = e.runInstructions s.script.instructions t := by
  rw [h.runs, (h.steady setup).instructions]

/-- A script can be written back if its run asks for it. -/
def Writable (e : Engine) (path : Location) (s : Session) : Prop :=
  ∀ t, e.execute s = (.halts .completed, t) → t.hasUpdated = true →
    (t.host.write path (Text.bytesOf t.script.toSource)).1 = .ok ()

/-- What is reported for each way in which the instructions can end. The fields of the result are
told one by one, since nothing but the run keeps them together. -/
theorem Reports.fields {path : Location} {result : ScriptResult}
    (reports : Reports path (e.execute s) result) (writable : e.Writable path s) :
    (result.outcome = .skipped ↔ ∃ reason, (e.execute s).1 = .halts (.skipped reason)) ∧
    (∀ reason, result.skipReason = some reason ↔ (e.execute s).1 = .halts (.skipped reason)) ∧
    (result.outcome = .passed ↔ (e.execute s).1 = .halts .completed) ∧
    (result.outcome = .failed ↔ ∃ line err, (e.execute s).1 = .fails line err) ∧
    ∀ failure, result.failure = some failure ↔
      ∃ line err, (e.execute s).1 = .fails line err ∧ failure = ⟨line, err.message⟩ := by
  unfold Writable at writable
  generalize e.execute s = ended at reports writable
  cases reports with
  | completed _ told =>
    obtain ⟨outcome, failure, skipReason, -⟩ := ScriptResult.verdict_eq_iff.mp told
    simp [outcome, failure, skipReason]
  | @unwritten t _ _ failed _ =>
    obtain ⟨updated, refused⟩ := writeBack_error failed
    have written := writable t rfl updated
    rw [refused] at written
    cases written
  | skipped told =>
    obtain ⟨outcome, failure, skipReason, -⟩ := ScriptResult.verdict_eq_iff.mp told
    simp [outcome, failure, skipReason]
  | failed told =>
    obtain ⟨outcome, failure, skipReason, -⟩ := ScriptResult.verdict_eq_iff.mp told
    simp [outcome, failure, skipReason, eq_comm]

/-- The first instruction is inactive, the second fails as its mark allows, and the third succeeds
against its mark. The last one is not reached. -/
def markedSource : String :=
  "[windows] skip later\n? exists missing\n! exists f\nstop\n-- f --\n"

end

end Engine
end ScriptSuite
