import ScriptSuite.Proofs.Session.Change

/-!
When a session counts as updated.

In a run a session is changed, and told what to expect whenever a handler is called (`Runs`). It
counts as updated if and only if a comparison has updated a file meanwhile
(`hasUpdated_iff_updated`), and no comparison does that unless the session may update
(`Updated.canUpdate`). Neither that permission nor the sandbox ever changes.
-/

namespace ScriptSuite.Session

/-- What happens to a session in a run at once. -/
inductive Stage : Session → Session → Prop where
  | change {s t : Session} : Change s t → Stage s t
  | called (s : Session) (expectation : Expectation) :
      Stage s { s with hasStarted := true, expectation := expectation, isDeferred := false }

/-- A session that a run leads to. -/
def Runs : Session → Session → Prop :=
  Relation.ReflTransGen Stage

/-- A comparison has updated a file on the way from one session to another. -/
def Updated (s t : Session) : Prop :=
  ∃ u v, Runs s u ∧ Completes u v ∧ Runs v t

variable {s t r : Session}

theorem Reaches.runs (h : Reaches s t) : Runs s t :=
  h.lift id fun _ _ => .change

theorem Runs.trans (h : Runs s t) (h' : Runs t r) : Runs s r :=
  Relation.ReflTransGen.trans h h'

/-- What a run leaves as it was set up. -/
structure Settled (s t : Session) : Prop where
  canUpdate : t.canUpdate = s.canUpdate
  workDir : t.workDir = s.workDir

theorem Stage.settled (h : Stage s t) : Settled s t := by
  cases h with
  | called => exact ⟨rfl, rfl⟩
  | change change =>
    cases change with
    | updated completes =>
      cases completes
      exact ⟨rfl, rfl⟩
    | _ => exact ⟨rfl, rfl⟩

/-- Whatever a run goes through, an update and the mark of it come together. -/
theorem Runs.settled (h : Runs s t) : Settled s t := by
  induction h with
  | refl => exact ⟨rfl, rfl⟩
  | tail _ stage ih =>
    obtain ⟨canUpdate, workDir⟩ := stage.settled
    exact ⟨canUpdate.trans ih.canUpdate, workDir.trans ih.workDir⟩

theorem Completes.hasUpdated (h : Completes s t) : t.hasUpdated = true := by
  cases h
  rfl

theorem Stage.hasUpdated_or (h : Stage s t) : t.hasUpdated = s.hasUpdated ∨ Completes s t := by
  cases h with
  | called => exact .inl rfl
  | change change =>
    cases change with
    | updated completes => exact .inr completes
    | _ => exact .inl rfl

theorem Runs.hasUpdated_of (h : Runs s t) (before : s.hasUpdated = true) : t.hasUpdated = true := by
  induction h with
  | refl => exact before
  | tail _ stage ih =>
    rcases stage.hasUpdated_or with same | completes
    · exact same.trans ih
    · exact completes.hasUpdated

/-- A session counts as updated if and only if a comparison has updated a file since it did
not. -/
theorem hasUpdated_iff_updated (h : Runs s t) (before : s.hasUpdated = false) :
    t.hasUpdated = true ↔ Updated s t := by
  constructor
  · intro after
    induction h with
    | refl => simp [before] at after
    | @tail u v runs stage ih =>
      rcases stage.hasUpdated_or with same | completes
      · obtain ⟨w, x, first, completes, last⟩ := ih (same.symm.trans after)
        exact ⟨w, x, first, completes, last.tail stage⟩
      · exact ⟨u, v, runs, completes, .refl⟩
  · rintro ⟨u, v, -, completes, runs⟩
    exact runs.hasUpdated_of completes.hasUpdated

/-- Nothing is put into the archive unless the session may update. -/
theorem Runs.updates_or (h : Runs s t) : t.updates = s.updates ∨ s.canUpdate = true := by
  induction h with
  | refl => exact .inl rfl
  | tail runs stage ih =>
    rcases ih with same | canUpdate
    · cases stage with
      | called => exact .inl same
      | change change =>
        cases change with
        | update canUpdate => exact .inr ((Runs.settled runs).canUpdate.symm.trans canUpdate)
        | updated completes =>
          cases completes
          exact .inl same
        | _ => exact .inl same
    · exact .inr canUpdate

/-- A comparison updates a file only if the session may update. -/
theorem Updated.canUpdate (h : Updated s t) (none : s.updates = []) : s.canUpdate = true := by
  obtain ⟨u, v, runs, completes, -⟩ := h
  rcases runs.updates_or with same | canUpdate
  · cases completes with
    | intro known _ =>
      rw [same, none] at known
      cases known
  · exact canUpdate

end ScriptSuite.Session
