import ScriptSuite.Job.Basic

/-!
What lasts while time passes.

Time passes on a host by letting its processes go on, one wake-up after another. So a relation
between hosts that holds whenever the due processes go on (`Elapsing`) holds between the hosts
before and after whatever takes time, such as a look at the clock and the reading of an output. If
it holds as well when a process is looked at or killed (`Watching`), it holds between the hosts
before and after waiting for a process and ending a job. A relation that is about the files and
about what the processes will do (`Passing`) needs no more than that it holds whenever one process
goes on. The first such relation is that of time itself (`passing_later`).
-/

namespace ScriptSuite

namespace Host

/-- A relation between hosts that lasts while time passes. -/
structure Elapsing (R : Host → Host → Prop) : Prop where
  refl : ∀ h : Host, R h h
  trans : ∀ {h h' h'' : Host}, R h h' → R h' h'' → R h h''
  clock : ∀ (h : Host) (clock : Clock), h.clock.now.nanoseconds ≤ clock.now.nanoseconds →
    R h { h with clock := clock }
  resumeDue : ∀ h : Host, R h h.resumeDue

/-- A relation between hosts that lasts while time passes, and while processes are looked at and
killed. -/
structure Watching (R : Host → Host → Prop) : Prop extends Elapsing R where
  collect : ∀ (h : Host) (id : ProcessId), R h (h.collect id).2
  kill : ∀ (h : Host) (id : ProcessId), R h (h.kill id)

theorem clock_resume (h : Host) (p : Process) : (h.resume p).clock = h.clock := by
  rw [resume]
  split <;> rfl

theorem clock_resumeDue (h : Host) : h.resumeDue.clock = h.clock := by
  rw [resumeDue]
  generalize h.processes.filter _ = due
  induction due generalizing h with
  | nil => rfl
  | cons p due ih => exact (ih (h.resume p)).trans (clock_resume h p)

namespace Elapsing

variable {R : Host → Host → Prop} (elapsing : Elapsing R)

include elapsing

theorem setNow (h : Host) {now : Instant} (later : h.clock.now.nanoseconds ≤ now.nanoseconds) :
    R h (h.setNow now) :=
  elapsing.clock h _ later

theorem passFrom (h : Host) {limit : Instant} (steps : Nat)
    (ahead : h.clock.now.nanoseconds ≤ limit.nanoseconds) :
    R h (Host.passFrom limit steps h) := by
  induction steps generalizing h with
  | zero => exact elapsing.setNow h ahead
  | succ steps ih =>
    rw [Host.passFrom]
    split
    · exact elapsing.setNow h ahead
    · next wake _ =>
      split
      · next reached =>
        have moved : R h (h.setNow ⟨max wake.nanoseconds h.clock.now.nanoseconds⟩) :=
          elapsing.setNow h (Nat.le_max_right _ _)
        refine elapsing.trans (elapsing.trans moved (elapsing.resumeDue _)) (ih _ ?_)
        rw [clock_resumeDue]
        exact Nat.max_le.mpr ⟨of_decide_eq_true reached, ahead⟩
      · exact elapsing.setNow h ahead

theorem passUntil (h : Host) (limit : Instant) : R h (h.passUntil limit) := by
  rw [Host.passUntil]
  split
  · exact elapsing.refl h
  · next ahead => exact elapsing.passFrom h _ (Nat.le_of_lt (Nat.lt_of_not_le ahead))

theorem sleep (h : Host) (d : Duration) : R h (h.sleep d) :=
  elapsing.passUntil h _

theorem look (h : Host) : R h h.look :=
  elapsing.trans (elapsing.passUntil h h.clock.nextLook) (elapsing.clock _ _ (Nat.le_refl _))

theorem time (h : Host) : R h h.time.2 :=
  elapsing.look h

theorem pollClosed (h : Host) (pipe : PipeId) (limit : Instant) (looks : Nat) :
    R h (Host.pollClosed pipe limit looks h) := by
  induction looks generalizing h with
  | zero => exact elapsing.refl h
  | succ looks ih =>
    rw [Host.pollClosed]
    split
    · simp only
      split
      · exact elapsing.time h
      · exact elapsing.trans (elapsing.trans (elapsing.time h) (elapsing.sleep _ _)) (ih _)
    · exact elapsing.refl h

theorem drain (h : Host) (pipe : PipeId) : R h (h.drain pipe).2 :=
  elapsing.trans (elapsing.time h) (elapsing.pollClosed _ _ _ _)

theorem outputOf (h : Host) (p : Process) (status : ExitStatus) : R h (h.outputOf p status).2 :=
  elapsing.trans (elapsing.drain h _) (elapsing.drain _ _)

end Elapsing

namespace Watching

variable {R : Host → Host → Prop} (watching : Watching R)

include watching

theorem pollEnd (h : Host) (id : ProcessId) (limit : Instant) (looks : Nat) :
    R h (Host.pollEnd id limit looks h).2 := by
  induction looks generalizing h with
  | zero => exact watching.refl h
  | succ looks ih =>
    have collected := watching.collect h id
    rw [Host.pollEnd]
    split
    · next ended => rwa [ended] at collected
    · next runs =>
      rw [runs] at collected
      have timed := watching.trans collected (watching.time _)
      simp only
      split
      · exact timed
      · exact watching.trans (watching.trans timed (watching.sleep _ _)) (ih _)

theorem awaitEnd (h : Host) (id : ProcessId) (wakes : Nat) : R h (Host.awaitEnd id wakes h).2 := by
  induction wakes generalizing h with
  | zero => exact watching.refl h
  | succ wakes ih =>
    have collected := watching.collect h id
    rw [Host.awaitEnd]
    split
    · next ended => rwa [ended] at collected
    · next runs =>
      rw [runs] at collected
      split
      · exact collected
      · exact watching.trans (watching.trans collected (watching.passUntil _ _)) (ih _)

/-- If it lasts when a program is started, it lasts when one is run in the foreground. -/
theorem runForeground (launch : ∀ (h : Host) (l : Launch), R h (h.launch l).2) (h : Host)
    (l : Launch) (deadline : Option Instant) : R h (h.runForeground l deadline).2 := by
  have timed := watching.time h
  rw [Host.runForeground]
  generalize h.time = looked at timed ⊢
  obtain ⟨start, h'⟩ := looked
  have launched := watching.trans timed (launch h' l)
  simp only
  generalize h'.launch l = result at launched ⊢
  obtain ⟨_ | p, h''⟩ := result
  · exact launched
  · cases deadline with
    | none =>
      have awaited := watching.trans launched (watching.awaitEnd h'' p.id h''.patience)
      simp only
      generalize Host.awaitEnd p.id _ _ = ended at awaited ⊢
      obtain ⟨_ | status, _⟩ := ended
      · exact awaited
      · exact watching.trans awaited (watching.outputOf _ p status)
    | some limit =>
      have polled := watching.trans launched
        (watching.pollEnd h'' p.id limit (looksFor (limit.since start)))
      simp only
      generalize Host.pollEnd p.id _ _ _ = ended at polled ⊢
      obtain ⟨_ | status, _⟩ := ended
      · have killed := watching.trans polled (watching.kill _ p.id)
        exact watching.trans (watching.trans killed (watching.collect _ _)) (watching.time _)
      · exact watching.trans polled (watching.outputOf _ p status)

end Watching

end Host

/-! ### Jobs -/

namespace Job

variable {R : Host → Host → Prop} (watching : Host.Watching R)

include watching

theorem isRunning_watching (j : Job) (h : Host) : R h (j.isRunning h).2 := by
  rw [isRunning]
  split
  · exact watching.refl h
  · exact watching.collect h _

/-- A job whose output has not been collected is waited for after a look at the clock. -/
theorem wait_watching_time {j : Job} (new : j.output = none) (timeout : Duration) (h : Host) :
    R h.time.2 (j.wait timeout h).2.2 := by
  rw [wait, new]
  generalize h.time = looked
  obtain ⟨start, h'⟩ := looked
  have polled := watching.pollEnd h' j.process.id (start.later timeout.nanoseconds)
    (looksFor timeout)
  simp only
  generalize Host.pollEnd j.process.id _ _ _ = ended at polled ⊢
  obtain ⟨_ | status, h''⟩ := ended
  · exact watching.trans polled (watching.time _)
  · exact watching.trans polled (watching.outputOf _ j.process status)

theorem wait_watching (j : Job) (timeout : Duration) (h : Host) :
    R h (j.wait timeout h).2.2 := by
  cases collected : j.output with
  | some output =>
    rw [wait, collected]
    exact watching.refl h
  | none =>
    exact watching.trans (watching.time h) (wait_watching_time watching collected timeout h)

theorem pollGone_watching (id : ProcessId) (limit : Instant) (looks : Nat) (h : Host) :
    R h (pollGone id limit looks h).2 := by
  induction looks generalizing h with
  | zero => exact watching.refl h
  | succ looks ih =>
    have timed := watching.time h
    rw [pollGone]
    simp only
    split
    · exact timed
    · have collected := watching.trans timed (watching.collect _ id)
      split
      · next ended => rwa [ended] at collected
      · next runs =>
        rw [runs] at collected
        exact watching.trans (watching.trans collected (watching.sleep _ _)) (ih _)

theorem terminate_watching (j : Job) (grace : Duration) (h : Host) :
    R h (j.terminate grace h).2 := by
  have looked := j.isRunning_watching watching h
  rw [terminate]
  split
  · next ended => rwa [ended] at looked
  · next host runs =>
    rw [runs] at looked
    have killed := watching.trans (watching.trans looked (watching.kill _ j.process.id))
      (watching.time _)
    simp only
    split
    · exact killed
    · next limit _ =>
      have polled := watching.trans killed
        (pollGone_watching watching j.process.id limit (looksFor grace) _)
      split
      · next gone => rwa [gone] at polled
      · next stays => rwa [stays] at polled

end Job

/-! ### What the processes will do -/

/-- What a process does after its pause, if it is running. -/
def ProcessState.next? : ProcessState → Option (List Signal → Behaviour)
  | .running _ _ next _ => some next
  | _ => none

namespace Host

/-- The processes are the same, and those that are still running will do what they would have
done. -/
structure Inherits (h h' : Host) : Prop where
  count : h'.processes.length = h.processes.length
  next : ∀ p' ∈ h'.processes, ∀ next, p'.state.next? = some next →
    ∃ p ∈ h.processes, p.state.next? = some next

theorem Inherits.of_eq {h h' : Host} (same : h'.processes = h.processes) : Inherits h h' := by
  constructor
  · rw [same]
  · intro p mem next goesOn
    exact ⟨p, same ▸ mem, goesOn⟩

/-- A signal ends a process or lets it go on as it would have done. -/
theorem next?_stateOnSignal {signal : Signal} {state : ProcessState}
    {next : List Signal → Behaviour}
    (goesOn : (Host.stateOnSignal signal state).next? = some next) :
    state.next? = some next := by
  cases state with
  | running wake reaction after noted =>
    rw [Host.stateOnSignal] at goesOn
    split at goesOn
    · cases goesOn
    · exact goesOn
    · exact goesOn
  | ended status => cases goesOn
  | reaped status => cases goesOn

/-- A relation between hosts that lasts while processes go on. It can be chained, and it is about
nothing but the files, what the processes will do, and that time does not go back. -/
structure Passing (R : Host → Host → Prop) : Prop where
  trans : ∀ {h h' h'' : Host}, R h h' → R h' h'' → R h h''
  same : ∀ {h h' : Host}, h'.files = h.files → h.Inherits h' →
    h.clock.now.nanoseconds ≤ h'.clock.now.nanoseconds → R h h'
  resume : ∀ {h h' : Host} {p : Process}, p ∈ h.processes → R h h' → R h (h'.resume p)

/-- The time of the second host is not before that of the first. -/
def Later (h h' : Host) : Prop :=
  h.clock.now.nanoseconds ≤ h'.clock.now.nanoseconds

/-- Time never goes back, whatever passes. -/
theorem passing_later : Passing Later where
  trans := Nat.le_trans
  same _ _ later := later
  resume {h h' p} _ before := by
    rw [Later, clock_resume]
    exact before

namespace Passing

variable {R : Host → Host → Prop} (passing : Passing R)

include passing

theorem refl (h : Host) : R h h :=
  passing.same rfl (.of_eq rfl) (Nat.le_refl _)

theorem foldl_resume {h h' : Host} {ps : List Process} (running : ∀ p ∈ ps, p ∈ h.processes)
    (before : R h h') : R h (ps.foldl Host.resume h') := by
  induction ps generalizing h' with
  | nil => exact before
  | cons p ps ih =>
    obtain ⟨first, rest⟩ := List.forall_mem_cons.mp running
    exact ih rest (passing.resume first before)

theorem elapsing : Elapsing R where
  refl := passing.refl
  trans := passing.trans
  clock _ _ later := passing.same rfl (.of_eq rfl) later
  resumeDue h := passing.foldl_resume (fun _ mem => (List.mem_filter.mp mem).1) (passing.refl h)

/-- A process may get any state in which it does not go on, and any in which it goes on like one
that there is. -/
theorem setState (h : Host) (id : ProcessId) {state : ProcessState}
    (known : ∀ next, state.next? = some next → ∃ p ∈ h.processes, p.state.next? = some next) :
    R h (h.setState id state) := by
  refine passing.same rfl ⟨by simp [Host.setState], ?_⟩ (Nat.le_refl _)
  intro p' mem next goesOn
  obtain ⟨p, there, rfl⟩ := List.mem_map.mp mem
  by_cases same : p.id = id
  · rw [if_pos same] at goesOn
    exact known next goesOn
  · rw [if_neg same] at goesOn
    exact ⟨p, there, goesOn⟩

theorem record (h : Host) (event : HostEvent) : R h (h.record event) :=
  passing.same rfl (.of_eq rfl) (Nat.le_refl _)

theorem collect (h : Host) (id : ProcessId) : R h (h.collect id).2 := by
  have looked := passing.elapsing.look h
  simp only [Host.collect]
  split
  · exact looked
  · split
    · exact looked
    · next status _ =>
      have reaped : R h.look (h.look.setState id (.reaped status)) := passing.setState _ id nofun
      exact passing.trans looked (passing.trans reaped (passing.record _ _))
    · exact looked

theorem signalProcess (h : Host) (id : ProcessId) (signal : Signal) :
    R h (h.signalProcess id signal) := by
  rw [Host.signalProcess]
  split
  · exact passing.record h _
  · next p found =>
    have told : R h (h.setState id (Host.stateOnSignal signal p.state)) :=
      passing.setState h id fun next goesOn =>
        ⟨p, List.mem_of_find?_eq_some found, next?_stateOnSignal goesOn⟩
    exact passing.trans told (passing.record _ _)

theorem kill (h : Host) (id : ProcessId) : R h (h.kill id) := by
  rw [Host.kill]
  split
  · exact passing.refl h
  · exact passing.signalProcess h _ _

theorem watching : Watching R where
  toElapsing := passing.elapsing
  collect := passing.collect
  kill := passing.kill

end Passing

end Host

theorem Job.signal_passing {R : Host → Host → Prop} (passing : Host.Passing R) (j : Job)
    (signal : Signal) (h : Host) : R h (j.signal signal h).2 := by
  have looked := j.isRunning_watching passing.watching h
  rw [Job.signal]
  split
  · next ended => rwa [ended] at looked
  · next runs =>
    rw [runs] at looked
    exact passing.trans looked (passing.signalProcess _ _ _)

end ScriptSuite
