import Mathlib.Data.List.Infix
import ScriptSuite.Proofs.Host.Reaping

/-!
What is written to streams.

What has been written to a stream stays at the start of what is written to it later, and a stream
that no running process can write to stays as it is (`Host.Pours`). Both hold whatever is done on
the host: while time passes, and when processes are started, looked at, killed and sent signals
(`Host.watching_pours`).
-/

namespace ScriptSuite

namespace Host

/-- Streams are written to at their ends, and only while somebody can write to them. -/
structure Pours (h h' : Host) : Prop where
  count : h.pipes.length ≤ h'.pipes.length
  written : ∀ id, h.written id <+: h'.written id
  closed : ∀ id < h.pipes.length, h.isOpen id = false →
    h'.isOpen id = false ∧ h'.written id = h.written id

variable {h h' h'' : Host} {p : Process}

/-- A stream is closed once no running process has it, be it the one it was made for or another. -/
theorem isOpen_eq_false_iff {id : PipeId} : h.isOpen id = false ↔
    ∀ p ∈ h.processes, p.isRunning = true → p.stdout ≠ id ∧ p.stderr ≠ id := by
  simp [isOpen]

theorem length_appendPipe (pipes : List Bytes) (id : PipeId) (data : Bytes) :
    (appendPipe pipes id data).length = pipes.length := by
  rw [appendPipe]
  split
  · rfl
  · exact List.length_modify _ _ _

theorem getD_appendPipe_of_ne {id other : PipeId} (ne : other ≠ id) (pipes : List Bytes)
    (data : Bytes) : (appendPipe pipes id data).getD other [] = pipes.getD other [] := by
  rw [appendPipe]
  split
  · rfl
  · rw [List.getD_eq_getElem?_getD, List.getElem?_modify_ne _ _ ne.symm,
      List.getD_eq_getElem?_getD]

/-- What has been written to a stream stays at its front. -/
theorem isPrefix_appendPipe (pipes : List Bytes) (id other : PipeId) (data : Bytes) :
    pipes.getD other [] <+: (appendPipe pipes id data).getD other [] := by
  by_cases same : other = id
  · subst same
    rw [appendPipe]
    split
    · exact List.prefix_refl _
    · rw [List.getD_eq_getElem?_getD, List.getD_eq_getElem?_getD, List.getElem?_modify_eq]
      cases pipes[other]? with
      | none => exact List.prefix_refl _
      | some old => exact List.prefix_append old data
  · rw [getD_appendPipe_of_ne same]

namespace Pours

/-- The streams are left alone, and nobody can write to one who could not before. -/
theorem of_pipes (pipes : h'.pipes = h.pipes)
    (opens : ∀ id, h.isOpen id = false → h'.isOpen id = false) : h.Pours h' where
  count := Nat.le_of_eq (congrArg List.length pipes.symm)
  written id := by rw [Host.written, Host.written, pipes]
  closed id _ shut := ⟨opens id shut, by rw [Host.written, Host.written, pipes]⟩

theorem of_eq (pipes : h'.pipes = h.pipes) (processes : h'.processes = h.processes) :
    h.Pours h' :=
  of_pipes pipes fun id shut => by rw [isOpen, processes]; exact shut

theorem refl (h : Host) : h.Pours h :=
  of_eq rfl rfl

theorem trans (first : h.Pours h') (second : h'.Pours h'') : h.Pours h'' where
  count := Nat.le_trans first.count second.count
  written id := (first.written id).trans (second.written id)
  closed id inside shut := by
    obtain ⟨shut', same⟩ := first.closed id inside shut
    obtain ⟨shut'', same'⟩ := second.closed id (Nat.lt_of_lt_of_le inside first.count) shut'
    exact ⟨shut'', same'.trans same⟩

/-- A process that goes on writes to its own streams, and passes them on to those it starts. -/
theorem resume (before : h.Pours h') (mem : p ∈ h.processes) : h.Pours (h'.resume p) := by
  rw [Host.resume]
  split
  · next wake reaction next noted running =>
    refine ⟨?_, fun id => ?_, fun id inside shut => ?_⟩
    · rw [length_appendPipe, length_appendPipe]
      exact before.count
    · exact ((before.written id).trans (isPrefix_appendPipe ..)).trans (isPrefix_appendPipe ..)
    · obtain ⟨shut', same⟩ := before.closed id inside shut
      have runs : p.isRunning = true := by rw [Process.isRunning, running]
      have apart := isOpen_eq_false_iff.mp shut p mem runs
      constructor
      · refine isOpen_eq_false_iff.mpr fun q there goesOn => ?_
        rcases List.mem_append.mp there with old | child
        · obtain ⟨q, mem', rfl⟩ := List.mem_map.mp old
          by_cases itself : q.id = p.id
          · rw [if_pos itself]
            exact apart
          · rw [if_neg itself] at goesOn ⊢
            exact isOpen_eq_false_iff.mp shut' q mem' goesOn
        · obtain ⟨i, _, rfl⟩ := List.mem_mapIdx.mp child
          exact apart
      · rw [Host.written, getD_appendPipe_of_ne apart.2.symm, getD_appendPipe_of_ne apart.1.symm,
          ← same, Host.written]
  · exact before

theorem foldl_resume {ps : List Process} (mem : ∀ p ∈ ps, p ∈ h.processes)
    (before : h.Pours h') : h.Pours (ps.foldl Host.resume h') := by
  induction ps generalizing h' with
  | nil => exact before
  | cons p ps ih =>
    obtain ⟨first, rest⟩ := List.forall_mem_cons.mp mem
    exact ih rest (before.resume first)

/-- A process may get any state in which it is running only if it has been before. -/
theorem setState (h : Host) (id : ProcessId) (state : ProcessState)
    (runs : ∀ p ∈ h.processes, p.id = id → Process.isRunning { p with state := state } = true →
      p.isRunning = true) : h.Pours (h.setState id state) := by
  refine of_pipes rfl fun pipe shut => isOpen_eq_false_iff.mpr fun q there goesOn => ?_
  obtain ⟨p, mem, rfl⟩ := List.mem_map.mp there
  have apart := isOpen_eq_false_iff.mp shut p mem
  by_cases same : p.id = id
  · rw [if_pos same] at goesOn ⊢
    exact apart (runs p mem same goesOn)
  · rw [if_neg same] at goesOn ⊢
    exact apart goesOn

theorem record (h : Host) (event : HostEvent) : h.Pours (h.record event) :=
  of_eq rfl rfl

end Pours

theorem elapsing_pours : Elapsing Pours where
  refl := .refl
  trans := .trans
  clock _ _ _ := .of_eq rfl rfl
  resumeDue h := .foldl_resume (fun _ mem => (List.mem_filter.mp mem).1) (.refl h)

/-! ### Processes -/

namespace Pours

theorem collect (h : Host) (id : ProcessId) : h.Pours (h.collect id).2 := by
  have looked := elapsing_pours.look h
  simp only [Host.collect]
  split
  · exact looked
  · split
    · exact looked
    · exact looked.trans ((setState _ _ _ fun _ _ _ runs => by cases runs).trans (record _ _))
    · exact looked

/-- No signal sets a process going. -/
theorem isRunning_of_stateOnSignal {signal : Signal} {q : Process}
    (goesOn : Process.isRunning { q with state := stateOnSignal signal p.state } = true) :
    p.isRunning = true := by
  obtain ⟨number, stdout, stderr, state⟩ := p
  cases state with
  | running => rfl
  | ended | reaped => cases goesOn

/-- A signal writes nothing, and a process that it ends holds no stream any more. -/
theorem signalProcess (numbered : h.Numbered) (id : ProcessId) (signal : Signal) :
    h.Pours (h.signalProcess id signal) := by
  rw [Host.signalProcess]
  split
  · exact record h _
  · next p found =>
    refine (setState h id (stateOnSignal signal p.state) fun q mem same goesOn => ?_).trans
      (record _ _)
    -- numbers are given out once, so that it is the process that has been found
    have again := numbered.process?_of_mem mem
    rw [same, found] at again
    cases again
    exact isRunning_of_stateOnSignal goesOn

theorem kill (numbered : h.Numbered) (id : ProcessId) : h.Pours (h.kill id) := by
  rw [Host.kill]
  split
  · exact refl h
  · exact signalProcess numbered id .kill

theorem start (h : Host) (behaviour : Behaviour) : h.Pours (h.start behaviour).2 := by
  have old {id : PipeId} (inside : id < h.pipes.length) :
      (h.start behaviour).2.written id = h.written id := by
    rw [Host.written, Host.written, List.getD_eq_getElem?_getD, List.getD_eq_getElem?_getD]
    exact congrArg (·.getD []) (List.getElem?_append_left inside)
  refine ⟨?_, fun id => ?_, fun id inside shut => ⟨?_, old inside⟩⟩
  · simp [Host.start, Host.record]
  · by_cases inside : id < h.pipes.length
    · rw [old inside]
    · rw [Host.written, List.getD_eq_getElem?_getD,
        List.getElem?_eq_none (Nat.le_of_not_lt inside)]
      exact List.nil_prefix
  · refine isOpen_eq_false_iff.mpr fun q there goesOn => ?_
    rcases List.mem_append.mp there with before | started
    · exact isOpen_eq_false_iff.mp shut q before goesOn
    · cases List.mem_singleton.mp started
      exact ⟨(Nat.ne_of_lt inside).symm, (Nat.ne_of_lt (Nat.lt_succ_of_lt inside)).symm⟩

theorem launch (h : Host) (l : Launch) : h.Pours (h.launch l).2 := by
  rw [Host.launch, spawn]
  cases h.behaviourOf l with
  | error e => exact refl h
  | ok behaviour => exact start h behaviour

end Pours

/-- To watch processes lets streams grow, and nothing else happens to them. -/
theorem watching_pours : Watching fun h h' => h.Sound → h'.Sound ∧ h.Pours h' where
  refl h sound := ⟨sound, .refl h⟩
  trans first second sound := by
    obtain ⟨sound', pours⟩ := first sound
    obtain ⟨sound'', pours'⟩ := second sound'
    exact ⟨sound'', pours.trans pours'⟩
  clock h clock later sound :=
    ⟨(watching_settles.clock h clock later sound).sound, elapsing_pours.clock h clock later⟩
  resumeDue h sound := ⟨(watching_settles.resumeDue h sound).sound, elapsing_pours.resumeDue h⟩
  collect h id sound := ⟨(watching_settles.collect h id sound).sound, .collect h id⟩
  kill h id sound := ⟨(watching_settles.kill h id sound).sound, .kill sound.numbered id⟩

end Host
end ScriptSuite
