import ScriptSuite.Proofs.Job.History

/-!
Signals to all jobs.

`kill` without a name asks one job after another whether it is running, and sends it the signal if
it is (`Programs.Visits`). The signal asks again, so a job can end between the two looks: then the
command fails, and the jobs after it are not asked (`Visits.slips`). `kill_robust_iff` says what
the command answers, and that all jobs that run on are sent the signal unless this happens to a job
that comes after one that has been sent it, or before one that runs on.
-/

namespace ScriptSuite

/-! ### The signals that are told -/

/-- The signal that an event tells of. -/
def HostEvent.signal? : HostEvent → Option (ProcessId × Signal × Bool)
  | .signalled id signal live => some (id, signal, live)
  | _ => none

/-- Between two hosts the journal has told of signals, the newest first. -/
def Host.Signals (h h' : Host) (signals : List (ProcessId × Signal × Bool)) : Prop :=
  ∃ new, h'.journal = new ++ h.journal ∧ new.filterMap HostEvent.signal? = signals

namespace Host.Signals

variable {h h' h'' : Host} {first second : List (ProcessId × Signal × Bool)}

theorem of_eq (same : h'.journal = h.journal) : h.Signals h' [] :=
  ⟨[], same, rfl⟩

theorem trans (one : h.Signals h' first) (two : h'.Signals h'' second) :
    h.Signals h'' (second ++ first) := by
  obtain ⟨new, journal, rfl⟩ := one
  obtain ⟨new', journal', rfl⟩ := two
  exact ⟨new' ++ new, by rw [journal', journal, List.append_assoc], List.filterMap_append ..⟩

theorem unique (one : h.Signals h' first) (two : h.Signals h' second) : first = second := by
  obtain ⟨new, journal, rfl⟩ := one
  obtain ⟨new', journal', rfl⟩ := two
  rw [List.append_cancel_right (journal.symm.trans journal')]

end Host.Signals

namespace Job

variable {j : Job} {h h' : Host} {signal : Signal}

/-- The job is running. -/
def Runs (j : Job) (h : Host) : Prop :=
  j.output = none ∧ ∃ p, h.process? j.number = some p ∧ p.isRunning = true

/-- The job has been sent a signal, which its process has got. -/
def Sent (signal : Signal) (j : Job) (h h' : Host) : Prop :=
  ∃ signals, h.Signals h' signals ∧ (j.number, signal, true) ∈ signals

/-- The job is running at two looks at it, the second being that of the signal, and is sent it. -/
def Sends (signal : Signal) (j : Job) (h h' : Host) : Prop :=
  ∃ h₁, j.isRunning h = (true, h₁) ∧ j.signal signal h₁ = (.ok (), h')

/-- The job ends between the two looks. -/
def Slips (signal : Signal) (j : Job) (h h' : Host) : Prop :=
  ∃ h₁, j.isRunning h = (true, h₁) ∧ j.signal signal h₁ = (.error (.error (.exited j.program)), h')

theorem HasEnded.not_runs (ended : j.HasEnded h) : ¬j.Runs h := by
  rintro ⟨new, p, found, runs⟩
  rcases ended with collected | ⟨status, q, found', reaped⟩
  · rw [new] at collected
    cases collected
  · cases found.symm.trans found'
    rw [Process.isRunning, reaped] at runs
    cases runs

/-- No look at a job sends a signal. -/
theorem isRunning_signals (j : Job) (h : Host) : h.Signals (j.isRunning h).2 [] := by
  rw [isRunning]
  split
  · exact .of_eq rfl
  · rcases h.collect_cases j.process.id with ⟨_, -, seen⟩ | ⟨-, looked, -⟩
    · rcases seen.journal with same | told
      · exact .of_eq same
      · exact ⟨[.reaped j.process.id], told, rfl⟩
    · exact .of_eq (looked.symm ▸ (Host.elapsing_lapses.look h).journal)

/-- A signal that is sent is sent after a look that has seen the job running. -/
theorem signal_eq_ok (sent : j.signal signal h = (.ok (), h')) :
    ∃ h₁, j.isRunning h = (true, h₁) ∧ h' = h₁.signalProcess j.number signal := by
  rw [Job.signal] at sent
  split at sent
  · cases sent
  · next h₁ runs =>
    cases sent
    exact ⟨h₁, runs, rfl⟩

/-- A signal that is not sent finds that the job has ended. -/
theorem signal_eq_error {fault : JobFault} (failed : j.signal signal h = (.error fault, h')) :
    fault = .error (.exited j.program) ∧ j.isRunning h = (false, h') := by
  rw [Job.signal] at failed
  split at failed
  · next ended =>
    cases failed
    exact ⟨rfl, ended⟩
  · cases failed

/-- A job that is known to the host is signalled while its number is still its own. -/
theorem signal_signals (known : (h.process? j.number).isSome)
    (sent : j.signal signal h = (.ok (), h')) : h.Signals h' [(j.number, signal, true)] := by
  obtain ⟨h₁, runs, rfl⟩ := signal_eq_ok sent
  have collected := (isRunning_eq_true runs).2
  rcases h.collect_cases j.number with ⟨_, ended, -⟩ | ⟨-, looked, running⟩
  · rw [collected] at ended
    cases ended
  · rw [collected] at looked
    obtain rfl : h₁ = h.look := looked
    have lapses := Host.elapsing_lapses.look h
    have told := Host.signalProcess_of_running running signal
    rw [lapses.known _ known, lapses.journal] at told
    exact ⟨[.signalled j.number signal true], told, rfl⟩

theorem Sends.settles (sends : j.Sends signal h h') (sound : h.Sound) : h.Settles h' := by
  obtain ⟨h₁, runs, sent⟩ := sends
  have looked := isRunning_settles sound runs
  have signalled := j.signal_settles looked.sound signal
  rw [sent] at signalled
  exact looked.trans signalled

theorem Sends.signals (sends : j.Sends signal h h') (sound : h.Sound)
    (known : (h.process? j.number).isSome) : h.Signals h' [(j.number, signal, true)] := by
  obtain ⟨h₁, runs, sent⟩ := sends
  have looked := j.isRunning_signals h
  rw [runs] at looked
  exact looked.trans (signal_signals ((isRunning_settles sound runs).retains.known known) sent)

theorem Slips.settles (slips : j.Slips signal h h') (sound : h.Sound) : h.Settles h' := by
  obtain ⟨h₁, runs, failed⟩ := slips
  have looked := isRunning_settles sound runs
  exact looked.trans (isRunning_settles looked.sound (signal_eq_error failed).2)

/-- Nothing is sent to a job that slips away. -/
theorem Slips.signals (slips : j.Slips signal h h') : h.Signals h' [] := by
  obtain ⟨h₁, runs, failed⟩ := slips
  have first := j.isRunning_signals h
  have second := j.isRunning_signals h₁
  rw [runs] at first
  rw [(signal_eq_error failed).2] at second
  exact first.trans second

/-- A job slips away only by ending. -/
theorem Slips.hasEnded (slips : j.Slips signal h h') : j.HasEnded h' := by
  obtain ⟨h₁, -, failed⟩ := slips
  exact hasEnded_of_isRunning (signal_eq_error failed).2

end Job

namespace Programs

open Handler

/-- Jobs are asked one after another, and those that are running are sent the signal, up to the
first that ends before it gets it; that one is told with those after it. -/
inductive Visits (signal : Signal) :
    List Job → Host → List Job → Option (Job × List Job) → Host → Prop where
  | done (h : Host) : Visits signal [] h [] none h
  | ended {j : Job} {rest sent : List Job} {slipped : Option (Job × List Job)} {h h' h'' : Host} :
      j.isRunning h = (false, h') → Visits signal rest h' sent slipped h'' →
      Visits signal (j :: rest) h sent slipped h''
  | sends {j : Job} {rest sent : List Job} {slipped : Option (Job × List Job)}
      {h h' h'' : Host} : j.Sends signal h h' → Visits signal rest h' sent slipped h'' →
      Visits signal (j :: rest) h (j :: sent) slipped h''
  | slips {j : Job} {rest : List Job} {h h' : Host} : j.Slips signal h h' →
      Visits signal (j :: rest) h [] (some (j, rest)) h'

namespace Visits

variable {signal : Signal} {jobs sent : List Job} {slipped : Option (Job × List Job)}
  {h h' : Host}

theorem settles (visits : Visits signal jobs h sent slipped h') (sound : h.Sound) :
    h.Settles h' := by
  induction visits with
  | done h => exact .refl sound
  | ended ended _ ih =>
    have looked := Job.isRunning_settles sound ended
    exact looked.trans (ih looked.sound)
  | sends sends _ ih =>
    have sent := sends.settles sound
    exact sent.trans (ih sent.sound)
  | slips slips => exact slips.settles sound

/-- The journal tells of the signals that have been sent, and of no others. -/
theorem signals (visits : Visits signal jobs h sent slipped h') (sound : h.Sound)
    (known : ∀ j ∈ jobs, (h.process? j.number).isSome) :
    h.Signals h' (sent.reverse.map fun j => (j.number, signal, true)) := by
  induction visits with
  | done h => exact .of_eq rfl
  | @ended j _ _ _ h _ _ ended _ ih =>
    have looked := Job.isRunning_settles sound ended
    have quiet := j.isRunning_signals h
    rw [ended] at quiet
    have rest := ih looked.sound fun k mem => looked.retains.known (known k (.tail _ mem))
    rw [← List.append_nil (List.map ..)]
    exact quiet.trans rest
  | @sends j _ _ _ _ _ _ sends _ ih =>
    have settles := sends.settles sound
    have first := sends.signals sound (known j List.mem_cons_self)
    have rest := ih settles.sound fun k mem => settles.retains.known (known k (.tail _ mem))
    rw [List.reverse_cons, List.map_append]
    exact first.trans rest
  | slips slips => exact slips.signals

/-- A job that is running in the end has been sent the signal, unless it comes after one that has
slipped away. -/
theorem mem_of_runs (visits : Visits signal jobs h sent slipped h') (sound : h.Sound) {k : Job}
    (mem : k ∈ jobs) (runs : k.Runs h') :
    k ∈ sent ∨ ∃ j rest, slipped = some (j, rest) ∧ k ∈ rest := by
  induction visits with
  | done h => cases mem
  | ended ended visits ih =>
    have looked := Job.isRunning_settles sound ended
    cases mem with
    | head =>
      have gone := (Job.hasEnded_of_isRunning ended).mono (.refl k) (visits.settles looked.sound)
      exact absurd runs gone.not_runs
    | tail _ mem => exact ih looked.sound mem runs
  | sends sends _ ih =>
    cases mem with
    | head => exact .inl List.mem_cons_self
    | tail _ mem => exact (ih (sends.settles sound).sound mem runs).imp_left (.tail _)
  | slips slips =>
    cases mem with
    | head => exact absurd runs slips.hasEnded.not_runs
    | tail _ mem => exact .inr ⟨_, _, rfl, mem⟩

theorem sublist (visits : Visits signal jobs h sent slipped h') : sent.Sublist jobs := by
  induction visits with
  | done => exact .refl []
  | ended _ _ ih => exact ih.cons _
  | sends _ _ ih => exact ih.cons_cons _
  | slips => exact List.nil_sublist _

/-- The jobs behind the one that slipped away are jobs of the session. -/
theorem rest_subset {j : Job} {rest : List Job}
    (visits : Visits signal jobs h sent (some (j, rest)) h') : rest ⊆ jobs := by
  generalize found : some (j, rest) = slipped at visits
  induction visits with
  | done => cases found
  | ended _ _ ih | sends _ _ ih => exact fun _ mem => .tail _ (ih found mem)
  | slips =>
    cases found
    exact fun _ mem => .tail _ mem

/-- Whether a job has been sent the signal is told by the number of its process. -/
theorem sent_iff (visits : Visits signal jobs h sent slipped h') (sound : h.Sound)
    (known : ∀ j ∈ jobs, (h.process? j.number).isSome) (k : Job) :
    k.Sent signal h h' ↔ ∃ j ∈ sent, j.number = k.number := by
  have signals := visits.signals sound known
  constructor
  · rintro ⟨told, signals', mem⟩
    rw [signals'.unique signals] at mem
    obtain ⟨j, there, same⟩ := List.mem_map.mp mem
    exact ⟨j, List.mem_reverse.mp there, congrArg Prod.fst same⟩
  · rintro ⟨j, there, same⟩
    exact ⟨_, signals, List.mem_map.mpr ⟨j, List.mem_reverse.mpr there, by rw [same]⟩⟩

end Visits

/-! ### The command -/

/-- What the command answers, given the session that it leaves, the jobs that it has sent the signal
and the one that has slipped away. -/
def killAnswer (t : Session) :
    List Job → Option (Job × List Job) → EStateM.Result Interrupt Session Unit
  | _, some (j, _) => .error (.error (.job (.exited j.program))) t
  | [], none => .error (.error (.failed "kill: no running background processes")) t
  | _ :: _, none => .ok () t

theorem sessionAfter_killAnswer (t : Session) (sent : List Job)
    (slipped : Option (Job × List Job)) : sessionAfter (killAnswer t sent slipped) = t := by
  cases slipped with
  | some slip => cases sent <;> rfl
  | none => cases sent <;> rfl

/-- The loop of the command visits its jobs. -/
theorem signalEach_run (signal : Signal) (jobs : List Job) (s : Session) :
    ∃ sent slipped h, Visits signal jobs s.host sent slipped h ∧
      (signalEach signal jobs).run s =
        match slipped with
        | some (j, _) => .error (.error (.job (.exited j.program))) { s with host := h }
        | none => .ok sent.length { s with host := h } := by
  induction jobs generalizing s with
  | nil => exact ⟨[], none, s.host, .done s.host, rfl⟩
  | cons job rest ih =>
    have looked := onHost_run job.isRunning s
    rcases running : job.isRunning s.host with ⟨_ | _, h₁⟩
    · rw [running] at looked
      obtain ⟨sent, slipped, h, visits, ran⟩ := ih { s with host := h₁ }
      refine ⟨sent, slipped, h, .ended running visits, ?_⟩
      rw [signalEach, run_bind_of_ok looked]
      exact ran
    · rw [running] at looked
      have signalled := tryHost_run JobFault.interrupt (job.signal signal) { s with host := h₁ }
      rcases result : job.signal signal h₁ with ⟨fault | _, h₂⟩
      · rw [result] at signalled
        obtain ⟨rfl, -⟩ := Job.signal_eq_error result
        refine ⟨[], some (job, rest), h₂, .slips ⟨h₁, running, result⟩, ?_⟩
        rw [signalEach, run_bind_of_ok looked]
        exact run_bind_of_error signalled
      · rw [result] at signalled
        obtain ⟨sent, slipped, h, visits, ran⟩ := ih { s with host := h₂ }
        refine ⟨job :: sent, slipped, h, .sends ⟨h₁, running, result⟩ visits, ?_⟩
        rw [signalEach, run_bind_of_ok looked]
        refine (run_bind_of_ok signalled).trans ?_
        cases slipped with
        | some slip => exact run_bind_of_error ran
        | none => exact run_bind_of_ok ran

/-- Without a name the command visits the jobs in order, up to the first that slips away, and
answers by what it has met. -/
theorem kill_run {signal : Signal} {arguments : List String}
    (split : splitSignal arguments = .ok (signal, [])) (negated : Bool) (s : Session) :
    ∃ sent slipped t, Visits signal s.jobs s.host sent slipped t.host ∧
      (kill negated arguments).run s = killAnswer t sent slipped := by
  obtain ⟨sent, slipped, h, visits, ran⟩ := signalEach_run signal s.jobs s
  refine ⟨sent, slipped, { s with host := h }, visits, ?_⟩
  have called : (kill negated arguments).run s = (do
      let sent ← signalEach signal s.jobs
      if sent = 0 then failed "kill: no running background processes" else pure () :
        Handler Unit).run s := by
    rw [kill, split]
    rfl
  rw [called]
  cases slipped with
  | some slip =>
    refine (run_bind_of_error ran).trans ?_
    cases sent <;> rfl
  | none =>
    rw [run_bind_of_ok ran]
    cases sent <;> rfl

/-- Without a name, jobs are asked one after another. All that are running in the end have been
sent the signal, and the command comes to its end if any has been, if and only if no job slips away
after one that has been sent the signal or before one that is running in the end. -/
theorem kill_robust_iff {signal : Signal} {arguments : List String} {s t : Session}
    {answer : EStateM.Result Interrupt Session Unit} (sound : s.host.Sound)
    (known : ∀ j ∈ s.jobs, (s.host.process? j.number).isSome)
    (split : splitSignal arguments = .ok (signal, [])) {negated : Bool}
    (ran : (kill negated arguments).run s = answer) (left : sessionAfter answer = t) :
    ∃ sent slipped, Visits signal s.jobs s.host sent slipped t.host ∧
      answer = killAnswer t sent slipped ∧
      (((∀ j ∈ s.jobs, j.Runs t.host → j.Sent signal s.host t.host) ∧
          ((∃ j ∈ s.jobs, j.Sent signal s.host t.host) → answer = .ok () t)) ↔
        ∀ j rest, slipped = some (j, rest) → sent = [] ∧ ∀ k ∈ rest, ¬k.Runs t.host) := by
  obtain ⟨sent, slipped, t', visits, answered⟩ := kill_run split negated s
  rw [ran] at answered
  obtain rfl : t' = t := by rw [← left, answered, sessionAfter_killAnswer]
  have reaches := visits.sent_iff sound known
  refine ⟨sent, slipped, visits, answered, ?_⟩
  cases slipped with
  | none =>
    refine iff_of_true ⟨fun k mem runs => ?_, ?_⟩ nofun
    · rcases visits.mem_of_runs sound mem runs with there | ⟨_, _, slipped, -⟩
      · exact (reaches k).mpr ⟨k, there, rfl⟩
      · cases slipped
    · rintro ⟨k, -, got⟩
      obtain ⟨i, there, -⟩ := (reaches k).mp got
      rw [answered]
      cases there <;> rfl
  | some slip =>
    -- the command has failed, so it is robust only if nobody has been sent the signal
    obtain ⟨j, rest⟩ := slip
    constructor
    · rintro ⟨reached, succeeds⟩ _ _ ⟨⟩
      have none : sent = [] := by
        refine List.eq_nil_iff_forall_not_mem.mpr fun k mem => ?_
        have got := succeeds ⟨k, visits.sublist.subset mem, (reaches k).mpr ⟨k, mem, rfl⟩⟩
        rw [answered] at got
        cases mem <;> cases got
      refine ⟨none, fun k mem runs => ?_⟩
      obtain ⟨i, there, -⟩ := (reaches k).mp (reached k (visits.rest_subset mem) runs)
      rw [none] at there
      cases there
    · intro slips
      obtain ⟨rfl, quiet⟩ := slips j rest rfl
      constructor
      · intro k mem runs
        rcases visits.mem_of_runs sound mem runs with there | ⟨_, _, ⟨⟩, there⟩
        · cases there
        · exact absurd runs (quiet k there)
      · rintro ⟨k, -, got⟩
        obtain ⟨i, there, -⟩ := (reaches k).mp got
        cases there

/-! ### Three jobs, the second of which ends -/

/-- Takes no notice of signals for a long time. -/
def lingering : Behaviour :=
  .pause (.ofSeconds 60) (fun _ => .ignores) fun _ => .exit 0

/-- Ends after two milliseconds. -/
def leaving : Behaviour :=
  .pause (.ofMilliseconds 2) (fun _ => .dies) fun _ => .exit 0

/-- A host whose clock goes at a pace. -/
def pacedHost (pace : Nat → Nat) : Host :=
  { Session.hostOf .empty with clock := ⟨default, pace, 0⟩ }

/-- The host a moment after three programs have been started on it. -/
@[irreducible]
def threeHost (pace : Nat → Nat) : Host :=
  ((((pacedHost pace).start lingering).2.start leaving).2.start lingering).2.passUntil ⟨2000000⟩

/-- The session that has started them. -/
def threeSession (pace : Nat → Nat) : Session :=
  { Session.ofFiles .empty with
    host := threeHost pace
    jobs := (threeHost pace).processes.map fun p => ⟨none, ["p"], .success, p, none⟩ }

theorem sound_threeHost (pace : Nat → Nat) : (threeHost pace).Sound := by
  have new : (pacedHost pace).IsNew := ⟨rfl, rfl⟩
  have first := Host.Settles.start new.sound lingering
  have second := Host.Settles.start first.sound leaving
  have third := Host.Settles.start second.sound lingering
  have later := Host.elapsing_settles.passUntil _ ⟨2000000⟩ third.sound
  unfold threeHost
  exact later.sound

/-- What there is to be seen before: the numbers of the jobs, and whether all are known and not
collected. -/
def jobFacts (s : Session) : List ProcessId × Bool :=
  (s.jobs.map Job.number,
    s.jobs.all fun j => j.output.isNone && (s.host.process? j.number).isSome)

/-- What there is to be seen after an answer: why it is not a success, the journal, and which
processes are running. -/
def killFacts (answer : EStateM.Result Interrupt Session Unit) :
    Option Interrupt × List HostEvent × List Bool :=
  (match answer with
    | .ok .. => none
    | .error interrupt _ => some interrupt,
    (sessionAfter answer).host.journal,
    [0, 1, 2].map fun id => ((sessionAfter answer).host.process? id).any Process.isRunning)

theorem exists_job {s : Session} {numbers : List ProcessId} (jobs : jobFacts s = (numbers, true))
    (id : ProcessId) (mem : id ∈ numbers) : ∃ j ∈ s.jobs, j.number = id ∧ j.output = none := by
  obtain ⟨rfl, all⟩ := Prod.mk.inj jobs
  obtain ⟨j, there, number⟩ := List.mem_map.mp mem
  have sees := List.all_eq_true.mp all j there
  rw [Bool.and_eq_true, Option.isNone_iff_eq_none] at sees
  exact ⟨j, there, number, sees.1⟩

theorem runs_of_any {j : Job} {h : Host} {id : ProcessId} (number : j.number = id)
    (new : j.output = none) (runs : (h.process? id).any Process.isRunning = true) : j.Runs h := by
  obtain ⟨p, found, isRunning⟩ := (Option.any_eq_true _ _).mp runs
  exact ⟨new, p, number ▸ found, isRunning⟩

theorem kill_robust_iff_steady :
    ∃ s t, s = threeSession (fun _ => 0) ∧ (kill false ["-HUP"]).run s = .ok () t ∧
      (∃ j ∈ s.jobs, j.Runs t.host) ∧
      ∀ j ∈ s.jobs, j.Runs t.host → j.Sent .hangup s.host t.host := by
  obtain ⟨s, same⟩ : ∃ s, s = threeSession fun _ => 0 := ⟨_, rfl⟩
  have sound : s.host.Sound := by
    rw [same]
    exact sound_threeHost _
  have jobs : jobFacts s = ([0, 1, 2], true) := by
    rw [same]
    decide +kernel
  have known : ∀ j ∈ s.jobs, (s.host.process? j.number).isSome := by
    intro j mem
    have sees := List.all_eq_true.mp (Prod.mk.inj jobs).2 j mem
    exact (Bool.and_eq_true _ _ ▸ sees).2
  have facts : killFacts ((kill false ["-HUP"]).run s) =
      (none, [.signalled 2 .hangup true, .signalled 1 .hangup true, .signalled 0 .hangup true,
        .started 2, .started 1, .started 0], [true, false, true]) := by
    rw [same]
    decide +kernel
  have split : splitSignal ["-HUP"] = .ok (.hangup, []) := by decide +kernel
  obtain ⟨j, mem, number, new⟩ := exists_job jobs 0 (by decide)
  cases ran : (kill false ["-HUP"]).run s with
  | error interrupt t =>
    rw [ran] at facts
    cases congrArg Prod.fst facts
  | ok _ t =>
    obtain ⟨sent, slipped, -, answered, robust⟩ := kill_robust_iff sound known split ran rfl
    rw [ran] at facts
    have runs : (t.host.process? 0).any Process.isRunning = true :=
      congrArg (fun facts => facts.2.2.headD false) facts
    have none : slipped = none := by
      cases slipped with
      | none => rfl
      | some slip => cases sent <;> cases answered
    have noSlip : ∀ j rest, slipped = some (j, rest) → sent = [] ∧ ∀ k ∈ rest, ¬k.Runs t.host := by
      intro j rest some
      cases none.symm.trans some
    exact ⟨s, t, same, ran, ⟨j, mem, runs_of_any number new runs⟩, (robust.mpr noSlip).1⟩

/-- The second job ends between the two looks at it: the command fails, although the first has been
sent the signal, and the third is never sent it. -/
theorem kill_slips :
    ∃ s t, s = threeSession (fun n => if n = 3 then 1000000 else 0) ∧
      (kill false ["-HUP"]).run s = .error (.error (.job (.exited "p"))) t ∧
      (∃ j ∈ s.jobs, j.Sent .hangup s.host t.host) ∧
      ∃ j ∈ s.jobs, j.Runs t.host ∧ ¬j.Sent .hangup s.host t.host := by
  obtain ⟨s, same⟩ : ∃ s, s = threeSession fun n => if n = 3 then 1000000 else 0 := ⟨_, rfl⟩
  have jobs : jobFacts s = ([0, 1, 2], true) := by
    rw [same]
    decide +kernel
  have facts : (s.host.journal, killFacts ((kill false ["-HUP"]).run s)) =
      ([.started 2, .started 1, .started 0], some (.error (.job (.exited "p"))),
        [.reaped 1, .signalled 0 .hangup true, .started 2, .started 1, .started 0],
        [true, false, true]) := by
    rw [same]
    decide +kernel
  obtain ⟨first, firstMem, firstNumber, -⟩ := exists_job jobs 0 (by decide)
  obtain ⟨third, thirdMem, thirdNumber, new⟩ := exists_job jobs 2 (by decide)
  cases ran : (kill false ["-HUP"]).run s with
  | ok _ t =>
    rw [ran] at facts
    cases congrArg (fun facts => facts.2.1) facts
  | error interrupt t =>
    rw [ran] at facts
    simp only [killFacts, sessionAfter, Prod.mk.injEq, Option.some.injEq, List.map_cons,
      List.map_nil, List.cons.injEq] at facts
    obtain ⟨before, rfl, after, -, -, runs, -⟩ := facts
    have signals : s.host.Signals t.host [(0, .hangup, true)] :=
      ⟨[.reaped 1, .signalled 0 .hangup true], by rw [after, before]; rfl, rfl⟩
    refine ⟨s, t, same, ran, ⟨first, firstMem, _, signals, ?_⟩, third, thirdMem,
      runs_of_any thirdNumber new runs, ?_⟩
    · rw [firstNumber]
      exact List.mem_cons_self
    · rintro ⟨told, signals', mem⟩
      rw [signals'.unique signals, thirdNumber] at mem
      cases mem with
      | tail _ mem => cases mem

end Programs
end ScriptSuite
