import ScriptSuite.Proofs.Host.Growth
import ScriptSuite.Proofs.Host.Lapse

/-!
The ends of processes.

A process that has ended does not go on, and one whose end has been seen keeps the status that was
seen (`ProcessState.Leads`). The journal of a host tells whose end has been seen, and it tells of no
signal to a process after that (`Host.Sound`). Both last whatever is done on the host: while time
passes, and when processes are started, looked at, killed, and sent a signal as long as their end
has not been seen (`Host.Settles`, `Host.watching_settles`).
-/

namespace ScriptSuite

/-- What may become of a process in a state. -/
inductive ProcessState.Leads : ProcessState → ProcessState → Prop where
  | running {wake : Option Instant} {reaction : Signal → Reaction}
      {next : List Signal → Behaviour} {noted : List Signal} (state : ProcessState) :
      Leads (.running wake reaction next noted) state
  | ended (status : ExitStatus) : Leads (.ended status) (.ended status)
  | seen (status : ExitStatus) : Leads (.ended status) (.reaped status)
  | reaped (status : ExitStatus) : Leads (.reaped status) (.reaped status)

namespace ProcessState.Leads

theorem refl (state : ProcessState) : state.Leads state := by
  cases state with
  | running => exact .running _
  | ended status => exact .ended status
  | reaped status => exact .reaped status

theorem trans {a b c : ProcessState} (first : a.Leads b) (second : b.Leads c) : a.Leads c := by
  cases first with
  | running => exact .running c
  | ended => exact second
  | seen status =>
    cases second
    exact .seen status
  | reaped => exact second

/-- A signal may end a running process, and never brings back one that has ended. -/
theorem onSignal (signal : Signal) (state : ProcessState) :
    state.Leads (Host.stateOnSignal signal state) := by
  cases state with
  | running => exact .running _
  | ended status => exact .ended status
  | reaped status => exact .reaped status

end ProcessState.Leads

/-- No signal makes the end of a process seen. -/
theorem Host.eq_reaped_of_stateOnSignal {signal : Signal} {state : ProcessState}
    {status : ExitStatus} (reaped : stateOnSignal signal state = .reaped status) :
    state = .reaped status := by
  cases state with
  | running =>
    rw [stateOnSignal] at reaped
    split at reaped <;> cases reaped
  | ended | reaped => exact reaped

namespace Host

/-- The processes are numbered in the order in which they have been started. -/
def Numbered (h : Host) : Prop :=
  ∀ (i : Nat) (p : Process), h.processes[i]? = some p → p.id = i

/-- The end of a process has been seen. -/
def Reaped (h : Host) (id : ProcessId) (status : ExitStatus) : Prop :=
  ∃ p, h.process? id = some p ∧ p.state = .reaped status

/-- What there is of the processes of a host is not undone on another. -/
def Retains (h h' : Host) : Prop :=
  ∀ id p, h.process? id = some p → ∃ p', h'.process? id = some p' ∧ p.state.Leads p'.state

/-- The journal tells whose end has been seen, and of no signal to a process after that. -/
structure Sound (h : Host) : Prop where
  numbered : h.Numbered
  reaped : ∀ id, .reaped id ∈ h.journal ↔ ∃ status, h.Reaped id status
  silent : h.journal.Pairwise fun later earlier =>
    ∀ id signal live, later = .signalled id signal live → earlier ≠ .reaped id

/-- No process has been started on the host yet. -/
structure IsNew (h : Host) : Prop where
  processes : h.processes = []
  journal : h.journal = []

variable {h h' h'' : Host} {id : ProcessId} {p : Process} {status : ExitStatus}

/-- A host on which nothing has been started is sound. -/
theorem IsNew.sound (new : h.IsNew) : h.Sound where
  numbered i p there := by
    rw [new.processes] at there
    cases there
  reaped id := by
    simp [new.journal, Reaped, process?, new.processes]
  silent := by
    rw [new.journal]
    exact .nil

/-! ### The numbers of processes -/

namespace Numbered

/-- On a host that numbers its processes a number is a place in the list of them. -/
theorem process?_eq (numbered : h.Numbered) (id : ProcessId) :
    h.process? id = h.processes[id]? := by
  cases inside : h.processes[id]? with
  | none =>
    refine List.find?_eq_none.mpr fun p mem same => ?_
    obtain ⟨i, there⟩ := List.mem_iff_getElem?.mp mem
    obtain rfl : i = id := (numbered i p there).symm.trans (of_decide_eq_true same)
    cases inside.symm.trans there
  | some p =>
    cases found : h.process? id with
    | none =>
      have other := List.find?_eq_none.mp found p (List.mem_of_getElem? inside)
      exact absurd (decide_eq_true (numbered id p inside)) other
    | some q =>
      obtain ⟨i, there⟩ := List.mem_iff_getElem?.mp (List.mem_of_find?_eq_some found)
      obtain rfl : i = id := (numbered i q there).symm.trans (by simpa using List.find?_some found)
      exact there.symm.trans inside

theorem process?_of_mem (numbered : h.Numbered) (mem : p ∈ h.processes) :
    h.process? p.id = some p := by
  obtain ⟨i, inside⟩ := List.mem_iff_getElem?.mp mem
  rw [numbered.process?_eq, numbered i p inside, inside]

theorem pairwise (numbered : h.Numbered) : h.processes.Pairwise fun p q => p.id ≠ q.id := by
  refine List.pairwise_iff_getElem.mpr fun i j iInside jInside before same => ?_
  rw [numbered i _ (List.getElem?_eq_getElem iInside),
    numbered j _ (List.getElem?_eq_getElem jInside)] at same
  exact Nat.ne_of_lt before same

/-- Processes keep their numbers, and new ones get the next. -/
theorem map_append (numbered : h.Numbered) {f : Process → Process} (keeps : ∀ p, (f p).id = p.id)
    {new : List Process}
    (next : ∀ i p, new[i]? = some p → p.id = h.processes.length + i)
    (processes : h'.processes = h.processes.map f ++ new) : h'.Numbered := by
  intro i p inside
  rw [processes, List.getElem?_append, List.length_map] at inside
  split at inside
  · obtain ⟨q, there, rfl⟩ := Option.map_eq_some_iff.mp (List.getElem?_map .. ▸ inside)
    exact (keeps q).trans (numbered i q there)
  · next beyond =>
    rw [next _ p inside]
    exact Nat.add_sub_cancel' (Nat.le_of_not_lt beyond)

/-- New processes take new numbers, so that those of before are found where they were. -/
theorem process?_map_append (numbered : h.Numbered) (numbered' : h'.Numbered)
    {f : Process → Process} {new : List Process}
    (processes : h'.processes = h.processes.map f ++ new) (id : ProcessId) :
    (∀ p, h.process? id = some p → h'.process? id = some (f p)) ∧
      ∀ p', h'.process? id = some p' → (∃ p, h.process? id = some p ∧ f p = p') ∨ p' ∈ new := by
  rw [numbered.process?_eq, numbered'.process?_eq, processes, List.getElem?_append,
    List.length_map]
  constructor
  · intro p there
    rw [if_pos (List.getElem?_eq_some_iff.mp there).1, List.getElem?_map, there, Option.map_some]
  · intro p' there
    split at there
    · rw [List.getElem?_map] at there
      exact .inl (Option.map_eq_some_iff.mp there)
    · exact .inr (List.mem_of_getElem? there)

theorem setState (numbered : h.Numbered) (id : ProcessId) (state : ProcessState) :
    (h.setState id state).Numbered := by
  have next : ∀ (i : Nat) (p : Process), ([] : List Process)[i]? = some p →
      p.id = h.processes.length + i := by simp
  refine numbered.map_append (fun p => ?_) next (List.append_nil _).symm
  split <;> rfl

end Numbered

theorem process?_setState_of_ne {other : ProcessId} (ne : other ≠ id) (state : ProcessState) :
    (h.setState id state).process? other = h.process? other := by
  have ids : (fun q : Process => decide (q.id = other)) ∘
      (fun q => if q.id = id then { q with state := state } else q) =
        fun q => decide (q.id = other) := by
    funext q
    by_cases equal : q.id = id <;> simp [equal]
  rw [process?, setState, List.find?_map, ids, ← process?]
  cases found : h.process? other with
  | none => rfl
  | some q =>
    have same : q.id = other := by simpa using List.find?_some found
    rw [Option.map_some, if_neg fun equal => ne (same.symm.trans equal)]

/-- To set the state of a process makes no other one seen or unseen. -/
theorem reaped_setState_iff (found : h.process? id = some p) {state : ProcessState}
    {other : ProcessId} :
    (h.setState id state).Reaped other status ↔
      (other = id ∧ state = .reaped status) ∨ (other ≠ id ∧ h.Reaped other status) := by
  by_cases same : other = id
  · subst same
    simp [Reaped, process?_setState found]
  · simp [Reaped, process?_setState_of_ne same, same]

/-! ### What is not undone -/

namespace Retains

theorem refl (h : Host) : h.Retains h :=
  fun _ p found => ⟨p, found, .refl _⟩

theorem trans (first : h.Retains h') (second : h'.Retains h'') : h.Retains h'' := by
  intro id p found
  obtain ⟨p', found', leads⟩ := first id p found
  obtain ⟨p'', found'', leads'⟩ := second id p' found'
  exact ⟨p'', found'', leads.trans leads'⟩

theorem reaped (retains : h.Retains h') (seen : h.Reaped id status) : h'.Reaped id status := by
  obtain ⟨p, found, state⟩ := seen
  obtain ⟨p', found', leads⟩ := retains id p found
  rw [state] at leads
  generalize reached : p'.state = state' at leads
  cases leads
  exact ⟨p', found', reached⟩

theorem known (retains : h.Retains h') (known : (h.process? id).isSome) :
    (h'.process? id).isSome := by
  obtain ⟨p, found⟩ := Option.isSome_iff_exists.mp known
  obtain ⟨p', found', -⟩ := retains id p found
  exact Option.isSome_iff_exists.mpr ⟨p', found'⟩

theorem setState (found : h.process? id = some p) {state : ProcessState}
    (leads : p.state.Leads state) : h.Retains (h.setState id state) := by
  intro other q there
  by_cases same : other = id
  · subst same
    cases found.symm.trans there
    exact ⟨_, process?_setState found state, leads⟩
  · exact ⟨q, (process?_setState_of_ne same state).trans there, .refl _⟩

end Retains

/-- The journal goes on telling the truth, and nothing is undone. -/
structure Settles (h h' : Host) : Prop where
  sound : h'.Sound
  retains : h.Retains h'

namespace Sound

/-- Nothing is told, and no end is seen. -/
theorem settles (sound : h.Sound) (numbered : h'.Numbered) (retains : h.Retains h')
    (unseen : ∀ id status, h'.Reaped id status → h.Reaped id status)
    (journal : h'.journal = h.journal) : h.Settles h' := by
  refine ⟨⟨numbered, fun id => ?_, ?_⟩, retains⟩
  · rw [journal, sound.reaped id]
    exact exists_congr fun status => ⟨retains.reaped, unseen id status⟩
  · rw [journal]
    exact sound.silent

/-- Something is told, but of no end of a process, and of no signal after one. -/
theorem record (sound : h.Sound) {event : HostEvent} (noEnd : ∀ id, event ≠ .reaped id)
    (silent : ∀ id signal live, event = .signalled id signal live →
      ∀ status, ¬h.Reaped id status) : h.Settles (h.record event) := by
  refine ⟨⟨sound.numbered, fun id => ?_, ?_⟩, .refl h⟩
  · refine Iff.trans ?_ (sound.reaped id)
    rw [Host.record, List.mem_cons]
    exact or_iff_right fun same => noEnd id same.symm
  · refine List.Pairwise.cons (fun earlier mem id signal live told same => ?_) sound.silent
    obtain ⟨status, seen⟩ := (sound.reaped id).mp (same ▸ mem)
    exact silent id signal live told status seen

end Sound

namespace Settles

theorem refl (sound : h.Sound) : h.Settles h :=
  ⟨sound, .refl h⟩

theorem trans (first : h.Settles h') (second : h'.Settles h'') : h.Settles h'' :=
  ⟨second.sound, first.retains.trans second.retains⟩

/-- Processes go on that have been running, and new ones are started. -/
theorem map_append (sound : h.Sound) {f : Process → Process} (keeps : ∀ p, (f p).id = p.id)
    {new : List Process} (next : ∀ i p, new[i]? = some p → p.id = h.processes.length + i)
    (processes : h'.processes = h.processes.map f ++ new)
    (running : ∀ p ∈ h.processes, f p = p ∨
      p.isRunning = true ∧ ∀ status, (f p).state ≠ .reaped status)
    (unseen : ∀ p ∈ new, ∀ status, p.state ≠ .reaped status)
    (journal : h'.journal = h.journal) : h.Settles h' := by
  have numbered := sound.numbered.map_append keeps next processes
  have found := sound.numbered.process?_map_append numbered processes
  refine sound.settles numbered (fun id p there => ?_) (fun id status seen => ?_) journal
  · refine ⟨f p, (found id).1 p there, ?_⟩
    rcases running p (List.mem_of_find?_eq_some there) with same | ⟨runs, -⟩
    · rw [same]
      exact .refl _
    · cases state : p.state with
      | running => exact .running _
      | ended | reaped => simp [Process.isRunning, state] at runs
  · obtain ⟨p', there', state⟩ := seen
    rcases (found id).2 p' there' with ⟨p, there, rfl⟩ | started
    · rcases running p (List.mem_of_find?_eq_some there) with same | ⟨-, goesOn⟩
      · exact ⟨p, there, same ▸ state⟩
      · exact absurd state (goesOn status)
    · exact absurd state (unseen p' started status)

/-! ### Time -/

/-- No process lets go of its number by itself. -/
theorem stateAfter_ne_reaped (now : Instant) (stop : Stop) (status : ExitStatus) :
    stateAfter now stop ≠ .reaped status := by
  cases stop <;> exact nofun

theorem resume (sound : h.Sound) (mem : p ∈ h.processes) : h.Settles (h.resume p) := by
  have found := sound.numbered.process?_of_mem mem
  rw [Host.resume]
  split
  · next wake reaction next noted running =>
    -- the children are the new processes, and of the others only `p` changes
    refine map_append sound ?_ ?_ rfl ?_ ?_ rfl
    · intro q
      split
      · next same => exact same.symm
      · rfl
    · intro i q inside
      obtain ⟨c, -, rfl⟩ := Option.map_eq_some_iff.mp (List.getElem?_mapIdx .. ▸ inside)
      rfl
    · intro q there
      by_cases same : q.id = p.id
      · have again := sound.numbered.process?_of_mem there
        rw [same, found] at again
        cases again
        rw [if_pos rfl]
        exact .inr ⟨by rw [Process.isRunning, running], stateAfter_ne_reaped _ _⟩
      · exact .inl (if_neg same)
    · intro q there status
      obtain ⟨i, inside, rfl⟩ := List.mem_mapIdx.mp there
      simp [freshState]
  · exact .refl sound

/-- A process that goes on leaves the others alone. -/
theorem mem_resume {q : Process} (mem : q ∈ h.processes) (ne : q.id ≠ p.id) :
    q ∈ (h.resume p).processes := by
  rw [Host.resume]
  split
  · exact List.mem_append_left _ (List.mem_map.mpr ⟨q, mem, if_neg ne⟩)
  · exact mem

theorem foldl_resume (sound : h.Sound) {ps : List Process}
    (apart : ps.Pairwise fun p q => p.id ≠ q.id) (mem : ∀ p ∈ ps, p ∈ h.processes) :
    h.Settles (ps.foldl Host.resume h) := by
  induction ps generalizing h with
  | nil => exact .refl sound
  | cons p ps ih =>
    obtain ⟨others, apart⟩ := List.pairwise_cons.mp apart
    obtain ⟨first, rest⟩ := List.forall_mem_cons.mp mem
    have went := resume sound first
    exact went.trans (ih went.sound apart fun q there =>
      mem_resume (rest q there) (others q there).symm)

theorem resumeDue (sound : h.Sound) : h.Settles h.resumeDue :=
  foldl_resume sound (sound.numbered.pairwise.filter _) fun _ mem => (List.mem_filter.mp mem).1

theorem clock (sound : h.Sound) (clock : Clock) : h.Settles { h with clock := clock } :=
  sound.settles sound.numbered (.refl h) (fun _ _ seen => seen) rfl

end Settles

/-- Passing time keeps a host sound, and what has been seen of it seen. -/
theorem elapsing_settles : Elapsing fun h h' => h.Sound → h.Settles h' where
  refl _ := .refl
  trans first second sound := (first sound).trans (second (first sound).sound)
  clock _ clock _ sound := .clock sound clock
  resumeDue _ := .resumeDue

/-! ### Processes -/

namespace Settles

theorem look (sound : h.Sound) : h.Settles h.look :=
  elapsing_settles.look h sound

/-- The end of a process is seen, and told. -/
theorem reap (sound : h.Sound) (found : h.process? id = some p) (ended : p.state = .ended status) :
    h.Settles ((h.setState id (.reaped status)).record (.reaped id)) := by
  refine ⟨⟨sound.numbered.setState id _, fun other => ?_, ?_⟩,
    .setState found (ended ▸ .seen status)⟩
  · refine Iff.trans ?_ (exists_congr fun _ => (reaped_setState_iff found).symm)
    by_cases same : other = id
    · subst same
      exact iff_of_true List.mem_cons_self ⟨status, .inl ⟨rfl, rfl⟩⟩
    · have told : .reaped other ∈ HostEvent.reaped id :: h.journal ↔ .reaped other ∈ h.journal :=
        List.mem_cons.trans (or_iff_right fun equal => same (HostEvent.reaped.inj equal))
      exact told.trans ((sound.reaped other).trans (by simp [same]))
  · refine List.Pairwise.cons (fun earlier mem other signal live told => ?_) sound.silent
    cases told

theorem collect (sound : h.Sound) (id : ProcessId) : h.Settles (h.collect id).2 := by
  have looked := look sound
  simp only [Host.collect]
  split
  · exact looked
  · next p found =>
    split
    · exact looked
    · next ended => exact looked.trans (reap looked.sound found ended)
    · exact looked

/-- A process whose end has not been seen may be sent a signal. -/
theorem signalProcess (sound : h.Sound) (unseen : ∀ status, ¬h.Reaped id status)
    (signal : Signal) : h.Settles (h.signalProcess id signal) := by
  have told (live : Bool) : h.Settles (h.record (.signalled id signal live)) := by
    refine sound.record nofun ?_
    rintro other signal' live' ⟨⟩
    exact unseen
  rw [Host.signalProcess]
  split
  · exact told false
  · next p found =>
    refine (told _).trans ((told _).sound.settles (sound.numbered.setState id _)
      (.setState found (.onSignal signal p.state)) (fun other status seen => ?_) rfl)
    rcases (reaped_setState_iff found).mp seen with ⟨rfl, reaped⟩ | ⟨-, before⟩
    · exact ⟨p, found, eq_reaped_of_stateOnSignal reaped⟩
    · exact before

theorem kill (sound : h.Sound) (id : ProcessId) : h.Settles (h.kill id) := by
  rw [Host.kill]
  split
  · exact .refl sound
  · next unseen =>
    refine signalProcess sound ?_ .kill
    rintro status ⟨⟨number, stdout, stderr, _⟩, found, rfl⟩
    exact unseen number stdout stderr status found

end Settles

/-- So does everything that watches processes. -/
theorem watching_settles : Watching fun h h' => h.Sound → h.Settles h' where
  toElapsing := elapsing_settles
  collect _ id sound := .collect sound id
  kill _ id sound := .kill sound id

namespace Settles

theorem start (sound : h.Sound) (behaviour : Behaviour) :
    h.Settles (h.start behaviour).2 := by
  have grown : h.Settles { (h.start behaviour).2 with journal := h.journal } := by
    have next : ∀ (i : Nat) (p : Process), [(h.start behaviour).1][i]? = some p →
        p.id = h.processes.length + i := by
      intro i p inside
      cases i with
      | zero =>
        cases inside
        rfl
      | succ i => cases inside
    refine map_append sound (f := fun p => p) (fun _ => rfl) next ?_ (fun _ _ => .inl rfl) ?_ rfl
    · rw [List.map_id']
      rfl
    · intro p mem status
      cases List.mem_singleton.mp mem
      exact nofun
  have told : Settles _ (record _ (.started (h.start behaviour).1.id)) :=
    grown.sound.record nofun nofun
  exact grown.trans told

theorem launch (sound : h.Sound) (l : Launch) : h.Settles (h.launch l).2 := by
  rw [Host.launch, spawn]
  cases h.behaviourOf l with
  | error e => exact .refl sound
  | ok behaviour => exact start sound behaviour

end Settles

/-! ### Looking again -/

/-- A look that gives a status has seen the end of the process. -/
theorem reaped_of_collect (ended : h.collect id = (some status, h')) :
    ∃ status, h'.Reaped id status := by
  rcases h.collect_cases id with ⟨_, -, ⟨p, status, found, reaped⟩, -⟩ | ⟨runs, -, -⟩
  · rw [ended] at found
    exact ⟨status, p, found, reaped⟩
  · rw [ended] at runs
    cases runs

/-- A look that gives no status has not seen the end of the process, and neither has any before. -/
theorem unseen_of_collect (runs : h.collect id = (none, h')) (status : ExitStatus) :
    ¬h'.Reaped id status := by
  rintro ⟨p, found, reaped⟩
  rcases h.collect_cases id with ⟨_, ended, -⟩ | ⟨-, looked, running⟩
  · rw [runs] at ended
    cases ended
  · rw [runs] at looked
    obtain rfl : h' = h.look := looked
    have goesOn := running p found
    rw [Process.isRunning, reaped] at goesOn
    cases goesOn

/-- A process whose end has been seen is seen to have ended again, and nothing is told. -/
theorem collect_of_reaped (sound : h.Sound) (seen : h.Reaped id status) :
    h.collect id = (some status, h.look) := by
  obtain ⟨⟨number, stdout, stderr, _⟩, found, rfl⟩ := (Settles.look sound).retains.reaped seen
  rw [collect]
  simp only [found]

end Host
end ScriptSuite
