import ScriptSuite.Job.Child

/-!
Programs that do nothing but end.

On a host whose clock stands still and that has no other process, such a program ends with its
status in the foreground (`runForeground_ending`). So there is no status that a program could
not end with.
-/

namespace ScriptSuite

/-- What a program does that does nothing but end. -/
def ExitStatus.behaviour : ExitStatus → Behaviour
  | .code n => .exit n
  | .signal n => .abort n

namespace Host

/-- The host with one process, that stands at `state`, at a time that does not pass by itself. -/
def lone (h : Host) (now : Instant) (looks : Nat) (state : ProcessState) : Host :=
  { h with
    clock := ⟨now, fun _ => 0, looks⟩, processes := [⟨0, 0, 1, state⟩], pipes := [[], []] }

theorem look_of_steady (h : Host) (steady : ∀ n, h.clock.pace n = 0) :
    h.look = { h with clock := { h.clock with looks := h.clock.looks + 1 } } := by
  have still : h.passUntil h.clock.nextLook = h := by
    rw [passUntil, Clock.nextLook, steady]
    exact if_pos (Nat.le_refl _)
  rw [look, still]

theorem look_lone (h : Host) (now : Instant) (looks : Nat) (state : ProcessState) :
    (h.lone now looks state).look = h.lone now (looks + 1) state :=
  look_of_steady _ fun _ => rfl

theorem proceed_behaviour (status : ExitStatus) (files : Node) :
    status.behaviour.proceed files = ⟨files, [], [], [], .ended status⟩ := by
  cases status <;> rfl

theorem resumeDue_lone (h : Host) (wake : Instant) (looks : Nat) (status : ExitStatus) :
    (h.lone wake looks (freshState wake status.behaviour)).resumeDue =
      h.lone wake looks (.ended status) := by
  have due : Process.isDue ⟨0, 0, 1, freshState wake status.behaviour⟩ wake = true :=
    decide_eq_true (Nat.le_refl _)
  have all : (h.lone wake looks (freshState wake status.behaviour)).processes.filter
      (fun p => p.isDue wake) = [⟨0, 0, 1, freshState wake status.behaviour⟩] :=
    List.filter_cons_of_pos due
  refine (congrArg (List.foldl resume _) all).trans ?_
  simp [lone, resume, freshState, proceed_behaviour, stateAfter, appendPipe]

theorem passUntil_lone (h : Host) {now wake : Instant} (looks : Nat) (status : ExitStatus)
    (later : now.nanoseconds < wake.nanoseconds) :
    (h.lone now looks (freshState wake status.behaviour)).passUntil wake =
      h.lone wake looks (.ended status) := by
  have next : (h.lone now looks (freshState wake status.behaviour)).nextWake = some wake := rfl
  have finished : (h.lone wake looks (.ended status)).nextWake = none := rfl
  have reached : wake.reached wake = true := decide_eq_true (Nat.le_refl _)
  have moved : (h.lone now looks (freshState wake status.behaviour)).setNow
      ⟨max wake.nanoseconds now.nanoseconds⟩ =
        h.lone wake looks (freshState wake status.behaviour) := by
    rw [Nat.max_eq_left (Nat.le_of_lt later)]
    rfl
  rw [passUntil]
  refine (if_neg (Nat.not_le.mpr later)).trans ?_
  rw [passFrom, next]
  simp only [reached, if_true]
  refine (congrArg (fun h => passFrom wake _ (resumeDue h)) moved).trans ?_
  rw [resumeDue_lone, passFrom, finished]
  rfl

/-- A look at a process that is still to go on sees no end. -/
theorem collect_lone_running (h : Host) (now wake : Instant) (looks : Nat)
    (behaviour : Behaviour) :
    (h.lone now looks (freshState wake behaviour)).collect 0 =
      (none, h.lone now (looks + 1) (freshState wake behaviour)) := by
  rw [collect, look_lone]
  rfl

/-- A look at a process that has ended sees how. -/
theorem collect_lone_ended (h : Host) (now : Instant) (looks : Nat) (status : ExitStatus) :
    ((h.lone now looks (.ended status)).collect 0).1 = some status := by
  rw [collect, look_lone]
  rfl

/-- A process that is alone on its host and about to end is awaited successfully, if two wake-ups
are waited for. -/
theorem awaitEnd_lone (h : Host) {now wake : Instant} (looks : Nat) (status : ExitStatus)
    (later : now.nanoseconds < wake.nanoseconds) (wakes : Nat) :
    (awaitEnd 0 (wakes + 2) (h.lone now looks (freshState wake status.behaviour))).1 =
      some status := by
  have next : (h.lone now (looks + 1) (freshState wake status.behaviour)).nextWake = some wake :=
    rfl
  have ended := collect_lone_ended h wake (looks + 1) status
  rw [awaitEnd, collect_lone_running]
  simp only [next]
  rw [passUntil_lone h (looks + 1) status later, awaitEnd]
  generalize (h.lone wake (looks + 1) (.ended status)).collect 0 = result at ended ⊢
  obtain ⟨found, h'⟩ := result
  cases ended
  rfl

/-- A program that does nothing but end does so in the foreground, on a host whose clock stands
still and that has no other process. -/
theorem runForeground_ending {h : Host} {l : Launch} {status : ExitStatus} {now : Instant}
    {looks wakes : Nat} (found : h.behaviourOf l = .ok status.behaviour)
    (steady : h.clock = ⟨now, fun _ => 0, looks⟩) (noProcess : h.processes = [])
    (noPipe : h.pipes = []) (patience : h.patience = wakes + 2) :
    ∃ out err h', h.runForeground l none = (.ok (.ofStatus status out err), h') := by
  have looked : h.time.2 = { h with clock := ⟨now, fun _ => 0, looks + 1⟩ } := by
    have still := look_of_steady h (by simp [steady])
    rw [steady] at still
    exact still
  have launched : h.time.2.launch l =
      (.ok ⟨0, 0, 1, freshState (now.later startDelay.nanoseconds) status.behaviour⟩,
        (h.record (.started 0)).lone now (looks + 1)
          (freshState (now.later startDelay.nanoseconds) status.behaviour)) := by
    have found' : h.time.2.behaviourOf l = .ok status.behaviour := by
      rw [looked]
      exact found
    rw [launch, spawn, found', looked]
    simp [start, lone, record, noProcess, noPipe]
  have later : now.nanoseconds < (now.later startDelay.nanoseconds).nanoseconds :=
    Nat.lt_add_of_pos_right (by decide)
  have ended := awaitEnd_lone (h.record (.started 0)) (looks + 1) status later wakes
  rw [runForeground]
  generalize h.time = timed at launched ⊢
  obtain ⟨start, h₁⟩ := timed
  simp only at launched ⊢
  rw [launched]
  have patient : ((h.record (.started 0)).lone now (looks + 1)
      (freshState (now.later startDelay.nanoseconds) status.behaviour)).patience = wakes + 2 :=
    patience
  simp only [patient]
  generalize awaitEnd 0 (wakes + 2) _ = result at ended ⊢
  obtain ⟨found, h₂⟩ := result
  cases ended
  exact ⟨_, _, _, rfl⟩

end Host
end ScriptSuite
