import ScriptSuite.Proofs.Host.Passing

/-!
What is written in the journal while time passes.

Nothing is (`Host.Lapses`): it is only told of processes that are started, looked at in vain no
more, or signalled. So when the end of a process is waited for, the journal tells of that end
alone (`Host.SeesEnd`), and when a running process is killed it tells of the signal first
(`Host.kill_of_running`).
-/

namespace ScriptSuite.Host

/-- Time has passed, and nothing has been done on the host. -/
structure Lapses (h h' : Host) : Prop where
  journal : h'.journal = h.journal
  later : h.clock.now.nanoseconds ≤ h'.clock.now.nanoseconds
  known : ∀ id, (h.process? id).isSome → (h'.process? id).isSome

variable {h h' h'' : Host} {id : ProcessId}

theorem isSome_process?_iff : (h.process? id).isSome ↔ ∃ p ∈ h.processes, p.id = id := by
  simp [process?, List.find?_isSome]

namespace Lapses

theorem refl (h : Host) : h.Lapses h :=
  ⟨rfl, Nat.le_refl _, fun _ known => known⟩

theorem trans (first : h.Lapses h') (second : h'.Lapses h'') : h.Lapses h'' where
  journal := second.journal.trans first.journal
  later := Nat.le_trans first.later second.later
  known id known := second.known id (first.known id known)

end Lapses

/-- A process that goes on may end, but nobody has seen it yet. -/
theorem lapses_resume (h : Host) (p : Process) : h.Lapses (h.resume p) := by
  rw [resume]
  split
  · refine ⟨rfl, Nat.le_refl _, ?_⟩
    intro id known
    obtain ⟨q, mem, same⟩ := isSome_process?_iff.mp known
    refine isSome_process?_iff.mpr ⟨_, List.mem_append_left _ (List.mem_map_of_mem mem), ?_⟩
    split
    · next equal => exact equal.symm.trans same
    · exact same
  · exact .refl h

theorem lapses_resumeDue (h : Host) : h.Lapses h.resumeDue := by
  rw [resumeDue]
  generalize h.processes.filter _ = due
  induction due generalizing h with
  | nil => exact .refl h
  | cons p due ih => exact (lapses_resume h p).trans (ih _)

theorem elapsing_lapses : Elapsing Lapses where
  refl := .refl
  trans := .trans
  clock _ _ later := ⟨rfl, later, fun _ known => known⟩
  resumeDue := lapses_resumeDue

/-! ### The end of a process -/

/-- The end of a process has been seen, now or before. -/
structure SeesEnd (id : ProcessId) (h h' : Host) : Prop where
  reaped : ∃ p status, h'.process? id = some p ∧ p.state = .reaped status
  journal : h'.journal = h.journal ∨ h'.journal = .reaped id :: h.journal

/-- An end that is seen after time has passed is seen as well from the time before. -/
theorem SeesEnd.after (seen : SeesEnd id h' h'') (lapses : h.Lapses h') : SeesEnd id h h'' :=
  ⟨seen.reaped, lapses.journal ▸ seen.journal⟩

theorem process?_setState {p : Process} (found : h.process? id = some p) (state : ProcessState) :
    (h.setState id state).process? id = some { p with state := state } := by
  have same : p.id = id := by simpa using List.find?_some found
  have ids : (fun q : Process => decide (q.id = id)) ∘
      (fun q => if q.id = id then { q with state := state } else q) =
        fun q => decide (q.id = id) := by
    funext q
    by_cases equal : q.id = id <;> simp [equal]
  rw [process?] at found ⊢
  rw [setState, List.find?_map, ids, found, Option.map_some, if_pos same]

/-- A look at a process sees its end, or finds it running if it is known. -/
theorem collect_cases (h : Host) (id : ProcessId) :
    (∃ status, (h.collect id).1 = some status ∧ SeesEnd id h (h.collect id).2) ∨
      ((h.collect id).1 = none ∧ (h.collect id).2 = h.look ∧
        ∀ p, h.look.process? id = some p → p.isRunning = true) := by
  have lapses := elapsing_lapses.look h
  rw [collect]
  generalize h.look = looked at lapses ⊢
  cases found : looked.process? id with
  | none =>
    refine .inr ⟨rfl, rfl, ?_⟩
    rintro p ⟨⟩
  | some p =>
    obtain ⟨number, stdout, stderr, state⟩ := p
    cases state with
    | running wake reaction next noted =>
      refine .inr ⟨rfl, rfl, ?_⟩
      rintro p ⟨⟩
      rfl
    | ended status =>
      have reaped := process?_setState found (.reaped status)
      have seen : SeesEnd id looked ((looked.setState id (.reaped status)).record (.reaped id)) :=
        ⟨⟨_, status, reaped, rfl⟩, .inr rfl⟩
      exact .inl ⟨status, rfl, seen.after lapses⟩
    | reaped status =>
      have seen : SeesEnd id looked looked := ⟨⟨_, status, found, rfl⟩, .inl rfl⟩
      exact .inl ⟨status, rfl, seen.after lapses⟩

/-- A signal to a process that has not been reaped is told. -/
theorem signalProcess_of_running (running : ∀ p, h.process? id = some p → p.isRunning = true)
    (signal : Signal) :
    (h.signalProcess id signal).journal =
      .signalled id signal (h.process? id).isSome :: h.journal := by
  rw [signalProcess]
  cases found : h.process? id with
  | none => rfl
  | some p =>
    have runs := running p found
    obtain ⟨number, stdout, stderr, state⟩ := p
    cases state with
    | running wake reaction next noted => rfl
    | ended status => cases runs
    | reaped status => cases runs

/-- A process that has not been reaped is sent a signal when it is killed. -/
theorem kill_of_running (running : ∀ p, h.process? id = some p → p.isRunning = true) :
    (h.kill id).journal =
      .signalled id .kill (h.process? id).isSome :: h.journal := by
  rw [kill]
  split
  · next found =>
    cases running _ found
  · exact signalProcess_of_running running .kill

end ScriptSuite.Host
