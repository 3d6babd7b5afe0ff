import ScriptSuite.Proofs.Host.Reaping
import ScriptSuite.Proofs.Session.Teardown

/-!
Jobs from their start to after their end.

Jobs are started on a host, looked at, waited for, sent signals and terminated in any order, while
time passes and other programs run (`JobTable.after`). In no such history is a signal sent to a
process whose end has been seen, and a job that has been seen to end answers in the same way from
then on (`JobTable.ended_for_good`).
-/

namespace ScriptSuite

namespace Job

/-- Something that is asked of a job. -/
inductive Operation where
  | isRunning
  | wait (timeout : Duration)
  | signal (signal : Signal)
  | terminate (grace : Duration)
  deriving DecidableEq, Repr

/-- What a job answers. -/
inductive Answer where
  | running (isRunning : Bool)
  | output (output : Output)
  /-- The signal has been sent. -/
  | sent
  /-- The job has been terminated. -/
  | gone
  | fault (fault : JobFault)
  deriving DecidableEq, Repr

/-- Asks something of a job. -/
def perform (j : Job) : Operation → Host → Answer × Job × Host
  | .isRunning, h =>
    let (isRunning, h) := j.isRunning h
    (.running isRunning, j, h)
  | .wait timeout, h =>
    match j.wait timeout h with
    | (.ok output, j, h) => (.output output, j, h)
    | (.error fault, j, h) => (.fault fault, j, h)
  | .signal signal, h =>
    match j.signal signal h with
    | (.ok _, h) => (.sent, j, h)
    | (.error fault, h) => (.fault fault, j, h)
  | .terminate grace, h =>
    match j.terminate grace h with
    | (.ok _, h) => (.gone, j, h)
    | (.error fault, h) => (.fault fault, j, h)

/-- The answer tells that the job has ended. -/
def Answer.TellsEnd : Answer → Prop
  | .running isRunning => isRunning = false
  | .output _ | .gone => True
  | .sent => False
  | .fault cause => ∃ program, cause = .error (.exited program)

/-- What is answered by a job that has been seen to end. -/
inductive AnswersEnded (j : Job) : Operation → Answer → Prop where
  | isRunning : AnswersEnded j .isRunning (.running false)
  | wait (timeout : Duration) (output : Output) : AnswersEnded j (.wait timeout) (.output output)
  | signal (signal : Signal) :
      AnswersEnded j (.signal signal) (.fault (.error (.exited j.program)))
  | terminate (grace : Duration) : AnswersEnded j (.terminate grace) .gone

/-- The job has been seen to end. -/
def HasEnded (j : Job) (h : Host) : Prop :=
  j.output.isSome ∨ ∃ status, h.Reaped j.number status

/-- The job is the same, but that its output may have been collected. -/
structure Becomes (j j' : Job) : Prop where
  process : j'.process = j.process
  output : ∀ output, j.output = some output → j'.output = some output

theorem Becomes.refl (j : Job) : j.Becomes j :=
  ⟨rfl, fun _ collected => collected⟩

theorem Becomes.trans {j j' j'' : Job} (first : j.Becomes j') (second : j'.Becomes j'') :
    j.Becomes j'' :=
  ⟨second.process.trans first.process,
    fun output collected => second.output output (first.output output collected)⟩

variable {j j' : Job} {h h' : Host} {operation : Operation}

theorem Becomes.number (becomes : j.Becomes j') : j'.number = j.number :=
  congrArg Process.id becomes.process

/-- What has ended stays ended, whatever becomes of the host and the job. -/
theorem HasEnded.mono (ended : j.HasEnded h) (becomes : j.Becomes j') (settles : h.Settles h') :
    j'.HasEnded h' := by
  rcases ended with collected | ⟨status, seen⟩
  · obtain ⟨output, collected⟩ := Option.isSome_iff_exists.mp collected
    exact .inl (Option.isSome_iff_exists.mpr ⟨output, becomes.output output collected⟩)
  · exact .inr ⟨status, becomes.number.symm ▸ settles.retains.reaped seen⟩

/-! ### One operation -/

/-- A job is seen running only if nothing has been collected of it. -/
theorem isRunning_eq_true (runs : j.isRunning h = (true, h')) :
    j.output = none ∧ h.collect j.number = (none, h') := by
  rw [isRunning] at runs
  split at runs
  · cases runs
  · next new =>
    refine ⟨Option.not_isSome_iff_eq_none.mp new, ?_⟩
    rcases looked : h.collect j.process.id with ⟨_ | status, h₁⟩
    · rw [looked] at runs
      cases runs
      exact looked
    · rw [looked] at runs
      cases runs

/-- A job that does not run has been seen to end. -/
theorem hasEnded_of_isRunning (ended : j.isRunning h = (false, h')) : j.HasEnded h' := by
  rw [isRunning] at ended
  split at ended
  · next collected => exact .inl collected
  · rcases looked : h.collect j.process.id with ⟨_ | status, h₁⟩
    · rw [looked] at ended
      cases ended
    · rw [looked] at ended
      cases ended
      exact .inr (Host.reaped_of_collect looked)

section

variable {R : Host → Host → Prop} (watching : Host.Watching R)
  (told : ∀ (h : Host) (id : ProcessId) (signal : Signal), (∀ status, ¬h.Reaped id status) →
    R h (h.signalProcess id signal))

include watching told

/-- A job is sent a signal only when it has been seen to run. -/
theorem signal_watching (j : Job) (signal : Signal) (h : Host) : R h (j.signal signal h).2 := by
  have looked := j.isRunning_watching watching h
  rw [Job.signal]
  split
  · next ended => rwa [ended] at looked
  · next h' runs =>
    rw [runs] at looked
    have unseen := Host.unseen_of_collect (isRunning_eq_true runs).2
    exact watching.trans looked (told h' _ signal unseen)

/-- What lasts when processes are watched, and when signals are sent to those whose end has not been
seen, lasts whatever is asked of a job. -/
theorem perform_watching (j : Job) (operation : Operation) (h : Host) :
    R h (j.perform operation h).2.2 := by
  cases operation with
  | isRunning => exact j.isRunning_watching watching h
  | wait timeout =>
    have waited := j.wait_watching watching timeout h
    rw [perform]
    split
    · next ended => rwa [ended] at waited
    · next failed => rwa [failed] at waited
  | signal signal =>
    have signalled := signal_watching watching told j signal h
    rw [perform]
    split
    · next sent => rwa [sent] at signalled
    · next failed => rwa [failed] at signalled
  | terminate grace =>
    have terminated := j.terminate_watching watching grace h
    rw [perform]
    split
    · next gone => rwa [gone] at terminated
    · next failed => rwa [failed] at terminated

end

theorem isRunning_settles (sound : h.Sound) {isRunning : Bool}
    (looked : j.isRunning h = (isRunning, h')) : h.Settles h' := by
  have settles := j.isRunning_watching Host.watching_settles h sound
  rwa [looked] at settles

theorem signal_settles (sound : h.Sound) (j : Job) (signal : Signal) :
    h.Settles (j.signal signal h).2 :=
  j.signal_watching Host.watching_settles
    (fun _ _ signal unseen sound => .signalProcess sound unseen signal) signal h sound

theorem wait_of_collected {output : Output} (collected : j.output = some output)
    (timeout : Duration) (h : Host) : j.wait timeout h = (.ok output, j, h) := by
  rw [wait, collected]

/-- An operation leaves a job what it is; all that may be new is its output. -/
theorem perform_becomes (j : Job) (operation : Operation) (h : Host) :
    j.Becomes (j.perform operation h).2.1 := by
  cases operation with
  | isRunning => exact .refl j
  | wait timeout =>
    rcases waited : j.wait timeout h with ⟨_ | output, j', h'⟩
    · simp only [perform, waited]
      rw [(wait_error waited).1]
      exact .refl j
    · simp only [perform, waited]
      refine ⟨by rw [(wait_ok waited).1], fun before collected => ?_⟩
      rw [wait_of_collected collected] at waited
      cases waited
      exact collected
  | signal signal =>
    rw [perform]
    split <;> exact .refl j
  | terminate grace =>
    rw [perform]
    split <;> exact .refl j

theorem Ends.hasEnded {grace : Duration} (ends : j.Ends grace h none h') : j.HasEnded h' := by
  cases ends with
  | collected known => exact .inl known
  | found seen | killed _ _ seen =>
    obtain ⟨p, status, found, reaped⟩ := seen.reaped
    exact .inr ⟨status, p, found, reaped⟩

/-- An answer that tells that the job has ended is right. -/
theorem hasEnded_of_perform (tells : (j.perform operation h).1.TellsEnd) :
    (j.perform operation h).2.1.HasEnded (j.perform operation h).2.2 := by
  cases operation with
  | isRunning =>
    rcases looked : j.isRunning h with ⟨runs, h'⟩
    simp only [perform, looked] at tells ⊢
    cases tells
    exact hasEnded_of_isRunning looked
  | wait timeout =>
    rcases waited : j.wait timeout h with ⟨fault | output, j', h'⟩
    · simp only [perform, waited] at tells
      obtain ⟨-, after, rfl⟩ := wait_error waited
      obtain ⟨program, exited⟩ := tells
      cases exited
    · simp only [perform, waited]
      rw [(wait_ok waited).1]
      exact .inl rfl
  | signal signal =>
    rcases looked : j.isRunning h with ⟨_ | _, h'⟩
    · simp only [perform, Job.signal, looked]
      exact hasEnded_of_isRunning looked
    · simp only [perform, Job.signal, looked] at tells
      cases tells
  | terminate grace =>
    have ends := terminate_cases j grace h
    rcases terminated : j.terminate grace h with ⟨fault | _, h'⟩
    · rw [terminated] at ends
      simp only [perform, terminated] at tells
      obtain ⟨program, rfl⟩ := tells
      rcases ends with ⟨_, ends, result⟩ | ⟨result, -⟩
      · cases ends <;> cases result
      · cases result
    · rw [terminated] at ends
      simp only [perform, terminated]
      rcases ends with ⟨_ | _, ends, result⟩ | ⟨result, -⟩
      · exact ends.hasEnded
      · cases result
      · cases result

/-- An output that is answered is kept. -/
theorem output_of_perform {output : Output}
    (answers : (j.perform operation h).1 = .output output) :
    (j.perform operation h).2.1.output = some output := by
  cases operation with
  | isRunning => cases answers
  | wait timeout =>
    rcases waited : j.wait timeout h with ⟨_ | known, j', h'⟩
    · simp only [perform, waited] at answers
      cases answers
    · simp only [perform, waited] at answers ⊢
      cases answers
      rw [(wait_ok waited).1]
  | signal signal =>
    rw [perform] at answers
    split at answers <;> cases answers
  | terminate grace =>
    rw [perform] at answers
    split at answers <;> cases answers

/-! ### After the end -/

/-- A job that has been seen to end is not looked at any more, or seen to have ended again. -/
theorem isRunning_of_hasEnded (sound : h.Sound) (ended : j.HasEnded h) :
    (j.isRunning h).1 = false ∧ (j.isRunning h).2.journal = h.journal := by
  by_cases collected : j.output.isSome = true
  · rw [isRunning, if_pos collected]
    exact ⟨rfl, rfl⟩
  · obtain ⟨status, seen⟩ := ended.resolve_left collected
    have again : h.collect j.process.id = _ := Host.collect_of_reaped sound seen
    rw [isRunning, if_neg collected, again]
    exact ⟨rfl, (Host.elapsing_lapses.look h).journal⟩

/-- A wait for a job that has ended gives an output, and does nothing to any process. -/
theorem wait_of_hasEnded (sound : h.Sound) (ended : j.HasEnded h) (timeout : Duration) :
    ∃ output j' h', j.wait timeout h = (.ok output, j', h') ∧ h'.journal = h.journal := by
  cases collected : j.output with
  | some output => exact ⟨output, j, h, wait_of_collected collected timeout h, rfl⟩
  | none =>
    obtain ⟨status, seen⟩ := ended.resolve_left (by simp [collected])
    have timed := Host.elapsing_lapses.time h
    have settles := Host.elapsing_settles.time h sound
    rw [wait, collected]
    generalize h.time = looked at timed settles ⊢
    obtain ⟨start, h₁⟩ := looked
    have again : h₁.collect j.process.id = _ :=
      Host.collect_of_reaped settles.sound (settles.retains.reaped seen)
    have polled (limit : Instant) :
        Host.pollEnd j.process.id limit (looksFor timeout) h₁ = (some status, h₁.look) := by
      rw [looksFor, Host.pollEnd, again]
    simp only [polled]
    refine ⟨_, _, _, rfl, ?_⟩
    have read := Host.elapsing_lapses.outputOf h₁.look j.process status
    exact read.journal.trans ((Host.elapsing_lapses.look h₁).journal.trans timed.journal)

/-- A job that has been seen to end answers so, and nothing is told. -/
theorem perform_of_hasEnded (sound : h.Sound) (ended : j.HasEnded h) (operation : Operation) :
    j.AnswersEnded operation (j.perform operation h).1 ∧
      (j.perform operation h).2.2.journal = h.journal := by
  have quiet := isRunning_of_hasEnded sound ended
  rcases looked : j.isRunning h with ⟨runs, h₁⟩
  rw [looked] at quiet
  obtain ⟨rfl, same⟩ := quiet
  cases operation with
  | isRunning =>
    simp only [perform, looked]
    exact ⟨.isRunning, same⟩
  | wait timeout =>
    obtain ⟨output, j', h', waited, same⟩ := wait_of_hasEnded sound ended timeout
    simp only [perform, waited]
    exact ⟨.wait timeout output, same⟩
  | signal signal =>
    simp only [perform, Job.signal, looked]
    exact ⟨.signal signal, same⟩
  | terminate grace =>
    simp only [perform, terminate, looked]
    exact ⟨.terminate grace, same⟩

end Job

/-! ### Histories -/

/-- Jobs, and the host that they run on. -/
structure JobTable where
  jobs : List Job
  host : Host

namespace JobTable

/-- What happens to jobs and to their host. -/
inductive Move where
  /-- Time passes. -/
  | pass (limit : Instant)
  /-- A program is run to its end or its deadline. -/
  | run (l : Launch) (deadline : Option Instant)
  | start (l : Launch) (name : Option String) (expectation : Expectation)
  /-- Something is asked of the job at that place. -/
  | perform (place : Nat) (operation : Job.Operation)

/-- The jobs and their host after something has happened. -/
def step (t : JobTable) : Move → JobTable
  | .pass limit => { t with host := t.host.passUntil limit }
  | .run l deadline => { t with host := (t.host.runForeground l deadline).2 }
  | .start l name expectation =>
    match Job.start l name expectation t.host with
    | (.ok job, h) => ⟨t.jobs ++ [job], h⟩
    | (.error _, h) => { t with host := h }
  | .perform place operation =>
    match t.jobs[place]? with
    | none => t
    | some job =>
      let (_, job, h) := job.perform operation t.host
      ⟨t.jobs.set place job, h⟩

/-- The jobs and their host after a history. -/
def after (t : JobTable) (moves : List Move) : JobTable :=
  moves.foldl step t

/-- What the job at a place answers. -/
def answer? (t : JobTable) (place : Nat) (operation : Job.Operation) : Option Job.Answer :=
  t.jobs[place]?.map fun job => (job.perform operation t.host).1

section

variable {R : Host → Host → Prop} (watching : Host.Watching R)
  (told : ∀ (h : Host) (id : ProcessId) (signal : Signal), (∀ status, ¬h.Reaped id status) →
    R h (h.signalProcess id signal))
  (launched : ∀ (h : Host) (l : Launch), R h (h.launch l).2)

include watching told launched

/-- What lasts as well when programs are started lasts whatever happens to jobs. -/
theorem step_watching (t : JobTable) (move : Move) : R t.host (t.step move).host := by
  cases move with
  | pass limit => exact watching.passUntil t.host limit
  | run l deadline => exact watching.runForeground launched t.host l deadline
  | start l name expectation =>
    have begun := launched t.host l
    rw [step, Job.start]
    rcases launch : t.host.launch l with ⟨_ | p, h⟩ <;> rw [launch] at begun <;> exact begun
  | perform place operation =>
    rw [step]
    cases t.jobs[place]? with
    | none => exact watching.refl t.host
    | some job => exact job.perform_watching watching told operation t.host

theorem after_watching (t : JobTable) (moves : List Move) : R t.host (t.after moves).host := by
  induction moves generalizing t with
  | nil => exact watching.refl t.host
  | cons move moves ih =>
    exact watching.trans (step_watching watching told launched t move) (ih (t.step move))

end

/-- Nothing is undone, and no job is lost. -/
structure Leads (t t' : JobTable) : Prop where
  settles : t.host.Settles t'.host
  jobs : ∀ (place : Nat) (job : Job), t.jobs[place]? = some job →
    ∃ job', t'.jobs[place]? = some job' ∧ job.Becomes job'

namespace Leads

variable {t t' t'' : JobTable}

theorem refl (sound : t.host.Sound) : t.Leads t :=
  ⟨.refl sound, fun _ job there => ⟨job, there, .refl job⟩⟩

theorem trans (first : t.Leads t') (second : t'.Leads t'') : t.Leads t'' := by
  refine ⟨first.settles.trans second.settles, fun place job there => ?_⟩
  obtain ⟨job', there', becomes⟩ := first.jobs place job there
  obtain ⟨job'', there'', becomes'⟩ := second.jobs place job' there'
  exact ⟨job'', there'', becomes.trans becomes'⟩

theorem step (sound : t.host.Sound) (move : Move) : t.Leads (t.step move) := by
  have settles := step_watching Host.watching_settles
    (fun _ _ signal unseen sound => .signalProcess sound unseen signal)
    (fun _ l sound => .launch sound l) t move sound
  have stays : ∀ (place : Nat) (job : Job), t.jobs[place]? = some job →
      ∃ job', t.jobs[place]? = some job' ∧ job.Becomes job' :=
    fun _ job there => ⟨job, there, .refl job⟩
  refine ⟨settles, ?_⟩
  cases move with
  | pass | run => exact stays
  | start l name expectation =>
    rw [JobTable.step, Job.start]
    rcases t.host.launch l with ⟨_ | p, h⟩
    · exact stays
    · refine fun place job there => ⟨job, ?_, .refl job⟩
      rw [List.getElem?_append_left (List.getElem?_eq_some_iff.mp there).1]
      exact there
  | perform place operation =>
    rw [JobTable.step]
    cases asked : t.jobs[place]? with
    | none => exact stays
    | some job =>
      refine fun other job' there => ?_
      rw [List.getElem?_set]
      by_cases same : place = other
      · subst same
        cases asked.symm.trans there
        exact ⟨_, by rw [if_pos rfl, if_pos (List.getElem?_eq_some_iff.mp there).1],
          Job.perform_becomes job operation t.host⟩
      · exact ⟨job', by rw [if_neg same, there], .refl job'⟩

theorem after (sound : t.host.Sound) (moves : List Move) : t.Leads (t.after moves) := by
  induction moves generalizing t with
  | nil => exact .refl sound
  | cons move moves ih =>
    have first := step sound move
    exact first.trans (ih first.settles.sound)

end Leads

/-! ### The end of a job -/

variable {t : JobTable} {place : Nat} {operation : Job.Operation} {answer : Job.Answer}

theorem answer?_eq_some_iff : t.answer? place operation = some answer ↔
    ∃ job, t.jobs[place]? = some job ∧ (job.perform operation t.host).1 = answer := by
  rw [answer?, Option.map_eq_some_iff]

/-- To perform an operation on a job changes that job and the host, and no other job. -/
theorem step_perform {job : Job} (there : t.jobs[place]? = some job) (operation : Job.Operation) :
    t.step (.perform place operation) =
      ⟨t.jobs.set place (job.perform operation t.host).2.1,
        (job.perform operation t.host).2.2⟩ := by
  rw [step, there]

/-- After an answer that tells that the job has ended, it has been seen to end, and an output that
has been answered is kept. -/
theorem exists_hasEnded (answers : t.answer? place operation = some answer)
    (tells : answer.TellsEnd) :
    ∃ job, (t.step (.perform place operation)).jobs[place]? = some job ∧
      job.HasEnded (t.step (.perform place operation)).host ∧
      ∀ output, answer = .output output → job.output = some output := by
  obtain ⟨job, there, rfl⟩ := answer?_eq_some_iff.mp answers
  rw [step_perform there]
  exact ⟨_, List.getElem?_set_self (List.getElem?_eq_some_iff.mp there).1,
    Job.hasEnded_of_perform tells, fun _ answered => Job.output_of_perform answered⟩

/-- A job that has been seen to end answers so, nothing is sent, and the output is the one that has
been kept. -/
theorem answersEnded_of_hasEnded (sound : t.host.Sound) {job : Job}
    (there : t.jobs[place]? = some job) (ended : job.HasEnded t.host)
    (answers : t.answer? place operation = some answer) :
    job.AnswersEnded operation answer ∧
      (t.step (.perform place operation)).host.journal = t.host.journal ∧
      ∀ output output', job.output = some output → answer = .output output' →
        output' = output := by
  obtain ⟨_, same, rfl⟩ := answer?_eq_some_iff.mp answers
  cases there.symm.trans same
  obtain ⟨answersEnded, quiet⟩ := Job.perform_of_hasEnded sound ended operation
  refine ⟨answersEnded, by rw [step_perform there, quiet], ?_⟩
  intro output output' collected answered
  have kept := (job.perform_becomes operation t.host).output output collected
  exact Option.some.inj ((Job.output_of_perform answered).symm.trans kept)

/-- Once the end of a process has been seen, no signal is sent to it in any history. Once the
answer of a job tells that it has ended, all that is asked of it later is answered so, nothing is
sent, and the output stays the same. -/
theorem ended_for_good {h : Host} (new : h.IsNew) (moves : List Move) :
    (∀ id later earlier,
        ((JobTable.mk [] h).after moves).host.journal = later ++ .reaped id :: earlier →
        ∀ signal live, .signalled id signal live ∉ later) ∧
      ∀ place operation answer,
        ((JobTable.mk [] h).after moves).answer? place operation = some answer →
        answer.TellsEnd → ∀ more operation' answer' u,
          (((JobTable.mk [] h).after moves).step (.perform place operation)).after more = u →
          u.answer? place operation' = some answer' →
          (∃ job, u.jobs[place]? = some job ∧ job.AnswersEnded operation' answer') ∧
            (u.step (.perform place operation')).host.journal = u.host.journal ∧
            ∀ output output', answer = .output output → answer' = .output output' →
              output' = output := by
  have sound : ((JobTable.mk [] h).after moves).host.Sound :=
    (Leads.after (t := ⟨[], h⟩) new.sound moves).settles.sound
  -- all that is needed of the history so far is that its journal tells the truth
  generalize (JobTable.mk [] h).after moves = t at sound
  refine ⟨fun id later earlier journal signal live sent => ?_, ?_⟩
  · have apart := List.pairwise_append.mp (journal ▸ sound.silent)
    exact apart.2.2 _ sent _ List.mem_cons_self id signal live rfl rfl
  · rintro place operation answer answers tells more operation' answer' u rfl answers'
    obtain ⟨job, here, ended, kept⟩ := exists_hasEnded answers tells
    have asked := Leads.step sound (.perform place operation)
    have leads := Leads.after asked.settles.sound more
    obtain ⟨job', there, becomes⟩ := leads.jobs place job here
    obtain ⟨answersEnded, quiet, same⟩ := answersEnded_of_hasEnded leads.settles.sound there
      (ended.mono becomes leads.settles) answers'
    refine ⟨⟨job', there, answersEnded⟩, quiet, fun output output' first second => ?_⟩
    exact same output output' (becomes.output output (kept output first)) second

/-! ### A program that ends soon -/

/-- A host with a program that ends after five milliseconds. -/
def briefHost : Host :=
  { Session.hostOf (.folder ['b', 'i', 'n'] 0o755
      (.file ['p'] ⟨Node.nativeMark, 0o755, false⟩ .empty) .empty) with
    load := fun _ => .ok <| .pause (.ofMilliseconds 5) (fun _ => .ignores) fun _ =>
      .write .stdout [0x78] (.exit 0) }

/-- The program is started as a job, and takes no notice of a signal. -/
def briefMoves : List Move :=
  [.start ⟨["/bin/p"], [], ⟨"/"⟩, []⟩ none .success, .pass ⟨2000000⟩,
    .perform 0 (.signal .hangup)]

/-- The job is waited for, and cannot be killed any more. -/
theorem ended_for_good_brief :
    ∃ t u output, t = (JobTable.mk [] briefHost).after briefMoves ∧
      t.answer? 0 (.wait (.ofSeconds 1)) = some (.output output) ∧
      u = (t.step (.perform 0 (.wait (.ofSeconds 1)))).after [.pass ⟨1000000000⟩] ∧
      u.answer? 0 (.signal .kill) = some (.fault (.error (.exited "/bin/p"))) ∧
      (u.step (.perform 0 (.signal .kill))).host.journal = u.host.journal := by
  have first : ((JobTable.mk [] briefHost).after briefMoves).answer? 0 (.wait (.ofSeconds 1)) =
      some (.output ⟨some 0, none, "x", ""⟩) := by decide +kernel
  have second : ((((JobTable.mk [] briefHost).after briefMoves).step
      (.perform 0 (.wait (.ofSeconds 1)))).after [.pass ⟨1000000000⟩]).answer? 0
        (.signal .kill) = some (.fault (.error (.exited "/bin/p"))) := by decide +kernel
  obtain ⟨-, ends⟩ := ended_for_good (h := briefHost) ⟨rfl, rfl⟩ briefMoves
  obtain ⟨-, quiet, -⟩ := ends 0 _ _ first trivial _ _ _ _ rfl second
  exact ⟨_, _, _, rfl, first, rfl, second, quiet⟩

end JobTable
end ScriptSuite
