import ScriptSuite.Proofs.Suite.Step

/-!
What lasts through a run.

A run does little to a session besides calling handlers. So a relation that all handlers keep
holds between the sessions before and after a run, however it ends (`execute_lasts`). Of the
built-in commands it is enough that changes keep it (`keeps_of_make`).
-/

namespace ScriptSuite

open Handler Session

/-! ### Commands of an engine -/

namespace Registry

theorem mem_of_command? {r : Registry} {name : String} {c : Command}
    (h : r.command? name = some c) : (name, c) ∈ r.entries := by
  rw [command?] at h
  generalize r.entries = entries at h
  induction entries with
  | nil => simp at h
  | cons entry entries ih =>
    obtain ⟨key, c'⟩ := entry
    rw [List.lookup_cons] at h
    split at h
    · next same =>
      cases h
      rw [beq_iff_eq] at same
      simp [same]
    · exact List.mem_cons_of_mem _ (ih h)

/-- Added commands come after those that are there already. -/
theorem entries_addAll {r r' : Registry} {commands : List (String × Command)}
    (h : r.addAll commands = .ok r') : r'.entries = r.entries ++ commands := by
  induction commands generalizing r with
  | nil =>
    cases h
    rw [List.append_nil]
  | cons entry commands ih =>
    obtain ⟨name, c⟩ := entry
    rw [addAll, add?] at h
    split at h
    · contradiction
    · next r'' added =>
      split at added
      · contradiction
      · cases added
        rw [ih h]
        simp

end Registry

namespace Engine

/-- All commands of the engine keep a relation between sessions. -/
def Keeps (R : Session → Session → Prop) (e : Engine) : Prop :=
  ∀ name c, e.registry.command? name = some c → ∀ negated arguments,
    Handler.Keeps R (c.run negated arguments)

/-- The commands of an engine are the built-in ones, and then those that have been added. -/
theorem registry_of_make {language : PatternLanguage} {params : RunParams} {e : Engine}
    (made : make language params = .ok e) :
    e.registry.entries = (Registry.builtinWith language).entries ++ params.commands := by
  rw [make] at made
  split at made
  · next registry all =>
    cases made
    exact Registry.entries_addAll all
  · contradiction

/-- A command of an engine is a built-in one or has been added to it. -/
theorem builtin_or_added_of_make {language : PatternLanguage} {params : RunParams} {e : Engine}
    (made : make language params = .ok e) {name : String} {c : Command}
    (found : e.registry.command? name = some c) :
    (name, c) ∈ (Registry.builtinWith language).entries ∨ (name, c) ∈ params.commands := by
  have mem := Registry.mem_of_command? found
  rwa [registry_of_make made, List.mem_append] at mem

/-- An engine keeps what changes keep, if the commands that have been added to it do. -/
theorem keeps_of_make {R : Session → Session → Prop} {language : PatternLanguage}
    {params : RunParams} {e : Engine} (made : make language params = .ok e)
    (changes : ∀ {s t}, Reaches s t → R s t)
    (added : ∀ entry ∈ params.commands, ∀ negated arguments,
      Handler.Keeps R (entry.2.run negated arguments)) : e.Keeps R := by
  intro name c found negated arguments
  rcases builtin_or_added_of_make made found with builtin | mem
  · intro s
    exact (Registry.builtin_keeps language _ builtin negated arguments s).mono changes
  · exact added _ mem negated arguments

theorem params_of_make {language : PatternLanguage} {params : RunParams} {e : Engine}
    (made : make language params = .ok e) : e.params = params := by
  rw [make] at made
  split at made
  · cases made
    rfl
  · contradiction

/-- A built-in command is a command of every engine. -/
theorem command?_of_make {language : PatternLanguage} {params : RunParams} {e : Engine}
    (made : make language params = .ok e) {name : String} {c : Command}
    (known : (Registry.builtinWith language).command? name = some c) :
    e.registry.command? name = some c := by
  rw [Registry.command?] at known
  rw [Registry.command?, registry_of_make made, List.lookup_append, known, Option.some_or]

/-! ### Relations that last -/

/-- A relation between sessions that lasts through a run if all handlers keep it: it can be
chained, changes keep it, and it does not mind what a handler is told when it is called. -/
structure Lasting (R : Session → Session → Prop) : Prop where
  trans : ∀ {s t r}, R s t → R t r → R s r
  changes : ∀ {s t}, Reaches s t → R s t
  called : ∀ (s : Session) (expectation : Expectation),
    R s { s with hasStarted := true, expectation := expectation, isDeferred := false }

section

variable {e : Engine} {R : Session → Session → Prop} (lasting : Lasting R)

include lasting

theorem step_lasts (keeps : e.Keeps R) (inst : Instruction) (s : Session) :
    R s (e.step inst s).2 := by
  cases called : e.call? s inst with
  | none => exact lasting.changes (edits_of_no_call called).reaches
  | some call =>
    obtain ⟨t, edits, session⟩ := edits_of_call called
    have answered : R call.session (sessionAfter (call.answer inst)) :=
      (keeps inst.name call.command (command_of_call called) _ call.arguments call.session).after
    rw [step_of_call called]
    have before : R s call.session :=
      lasting.trans (lasting.changes edits.reaches) (session ▸ lasting.called t inst.expectation)
    exact lasting.trans (lasting.trans before answered)
      (lasting.changes (endOf_edits _ _ _).reaches)

/-- What every command keeps is kept along the instructions of a script. -/
theorem runInstructions_lasts (keeps : e.Keeps R) (insts : List Instruction) (s : Session) :
    R s (e.runInstructions insts s).2 := by
  induction insts generalizing s with
  | nil => exact lasting.changes (.refl s)
  | cons inst rest ih =>
    have stepped := step_lasts lasting keeps inst s
    rw [runInstructions]
    cases ended : e.step inst s with
    | mk ending t =>
      rw [ended] at stepped
      cases ending with
      | goesOn => exact lasting.trans stepped (ih t)
      | halts halt => exact stepped
      | fails err => exact stepped
      | panics => exact stepped
      | endless => exact stepped

/-- What all handlers keep holds between the sessions before and after a run. -/
theorem execute_lasts (keeps : e.Keeps R)
    (setup : ∀ hook, e.params.setup = some hook → Handler.Keeps R hook) (s : Session) :
    R s (e.execute s).2 := by
  rw [execute]
  split
  · exact runInstructions_lasts lasting keeps _ s
  · next hook found =>
    have prepared := (setup hook found s).after
    split
    · next ran =>
      rw [ran] at prepared
      exact lasting.trans prepared (runInstructions_lasts lasting keeps _ _)
    · next ran => rwa [ran] at prepared
    · next ran => rwa [ran] at prepared
    · next ran => rwa [ran] at prepared

end

end Engine
end ScriptSuite
