import ScriptSuite.Proofs.Command.Orderly

/-!
How jobs are started and waited for.

`exec` with a mark adds a job to the end of the list, whose process is new to the host, or
leaves list and host alone (`exec_background_cases`). `wait` takes jobs out of the list, collects
the output of one after another (`collect`), and puts those back that it could not wait for
(`wait_cases`); so each job that was taken is collected or back in the list (`collect_parts`).
-/

namespace ScriptSuite

open Handler

namespace Job

/-- The number of the process of a job. -/
def number (j : Job) : ProcessId :=
  j.process.id

/-- A job that has been started has the name and the expectation that it was given, and no output
yet. -/
theorem start_ok {l : Launch} {name : Option String} {expectation : Expectation} {h h' : Host}
    {job : Job} (started : start l name expectation h = (.ok job, h')) :
    job.name = name ∧ job.expectation = expectation ∧ job.output = none ∧
      job.number = h.processes.length ∧ h'.processes.length = h.processes.length + 1 ∧
      h'.journal = .started job.number :: h.journal := by
  rw [start, Host.launch, Host.spawn] at started
  cases found : h.behaviourOf l with
  | error e =>
    rw [found] at started
    cases started
  | ok behaviour =>
    rw [found] at started
    cases started
    obtain ⟨new, more⟩ := h.start_fresh behaviour
    exact ⟨rfl, rfl, rfl, new, more, rfl⟩

/-- A program that cannot be started leaves no trace on the host. -/
theorem start_error {l : Launch} {name : Option String} {expectation : Expectation} {h h' : Host}
    {fault : JobFault} (failed : start l name expectation h = (.error fault, h')) : h' = h := by
  rw [start, Host.launch, Host.spawn] at failed
  cases found : h.behaviourOf l with
  | error e =>
    rw [found] at failed
    cases failed
    rfl
  | ok behaviour =>
    rw [found] at failed
    cases failed

/-- A job that has been waited for to its end keeps its output, which tells how its process
ended. -/
theorem wait_ok {j j' : Job} {timeout : Duration} {h h' : Host} {output : Output}
    (waited : j.wait timeout h = (.ok output, j', h')) :
    j' = { j with output := some output } ∧
      (j.output = some output ∨ ∃ status out err, output = .ofStatus status out err) := by
  rw [wait] at waited
  cases collected : j.output with
  | some known =>
    rw [collected] at waited
    cases waited
    exact ⟨by rw [← collected], .inl rfl⟩
  | none =>
    rw [collected] at waited
    generalize h.time = looked at waited
    obtain ⟨start, h₁⟩ := looked
    simp only at waited
    generalize Host.pollEnd j.process.id _ _ _ = ended at waited
    obtain ⟨_ | status, h₂⟩ := ended
    · cases waited
    · cases waited
      exact ⟨rfl, .inr ⟨status, _, _, rfl⟩⟩

end Job

namespace Programs

/-! ### Starting jobs -/

/-- What `exec` starts for a command line. -/
def launchOf (s : Session) (line : List String) : Launch :=
  ⟨commandLine s line, s.environment, s.folder, s.stdin.getD []⟩

/-- The process that `exec` starts for a job is new to the host, and the start is in the
journal. -/
structure Starts (s t : Session) (job : Job) : Prop where
  jobs : t.jobs = s.jobs ++ [job]
  new : job.number = s.host.processes.length
  processes : t.host.processes.length = s.host.processes.length + 1
  journal : t.host.journal = .started job.number :: s.host.journal
  /-- No other job has its name. -/
  name : ∀ name, job.name = some name → hasJob s name = false
  expectation : job.expectation = s.expectation
  deferred : t.isDeferred = true

theorem execBackground_run (l : Launch) (name : Option String) (s : Session) :
    (execBackground l name).run s =
      if name.any (hasJob s) then
        .error (.error (.usage ("duplicate background process name " ++
          Text.quoted (name.getD "")))) s
      else
        match Job.start l name s.expectation s.host with
        | (.ok job, h) => .ok () { s with host := h, jobs := s.jobs ++ [job], isDeferred := true }
        | (.error fault, h) => .error fault.interrupt { s with host := h } := by
  have starts : (do
      let job ← tryHost JobFault.interrupt (Job.start l name s.expectation)
      modify fun s => { s with jobs := s.jobs ++ [job], isDeferred := true } :
        Handler Unit).run s =
      match Job.start l name s.expectation s.host with
      | (.ok job, h) => .ok () { s with host := h, jobs := s.jobs ++ [job], isDeferred := true }
      | (.error fault, h) => .error fault.interrupt { s with host := h } := by
    have ran := tryHost_run JobFault.interrupt (Job.start l name s.expectation) s
    cases started : Job.start l name s.expectation s.host with
    | mk result h =>
      rw [started] at ran
      cases result with
      | ok job =>
        rw [run_bind_of_ok ran]
        rfl
      | error fault => rw [run_bind_of_error ran]
  cases name with
  | none => exact starts
  | some text =>
    rw [← starts, Option.any_some]
    cases taken : hasJob s text with
    | true =>
      rw [execBackground, run_get_bind]
      simp only [taken]
      rfl
    | false =>
      rw [execBackground, run_get_bind]
      simp only [taken]
      rfl

theorem writeOutput_eq (s : Session) (stdout stderr : String) :
    s.writeOutput stdout stderr = { s with log := (s.writeOutput stdout stderr).log } := by
  simp only [Session.writeOutput]
  split <;> split <;> rfl

/-- What `exec` answers when its program has ended in the foreground. -/
theorem execForeground_run {l : Launch} {s : Session} {output : Output} {h : Host}
    (ran : s.host.runForeground l s.deadline = (.ok output, h)) (label : String) :
    ∃ log, (execForeground l label).run s =
      let t := { s with host := h, log := log, stdout := output.stdout, stderr := output.stderr }
      if output.isSuccess then .ok () t
      else .error (.error (.failed (label ++ ": " ++ output.status))) t := by
  have started := tryHost_run JobFault.interrupt (fun h => h.runForeground l s.deadline) s
  rw [ran] at started
  obtain ⟨log, written⟩ : ∃ log, (Session.writeOutput { s with host := h } output.stdout
      output.stderr).setOutput output.stdout output.stderr =
        { s with host := h, log := log, stdout := output.stdout, stderr := output.stderr } := by
    rw [writeOutput_eq]
    exact ⟨_, rfl⟩
  refine ⟨log, ?_⟩
  rw [execForeground, run_get_bind, run_bind_of_ok started, ← written]
  simp only
  split <;> rfl

/-- What `exec` does depends on its arguments through the command line and the mark alone. -/
theorem exec_run {arguments line : List String} {ground : Ground} {s : Session} (negated : Bool)
    (split : splitMark arguments = (line, ground)) (ne : line ≠ []) :
    (exec negated arguments).run s =
      (match ground with
        | .background name => execBackground (launchOf s line) name
        | .foreground => execForeground (launchOf s line) (line.headD "")).run
          { s with stdin := none } := by
  cases line with
  | nil => exact absurd rfl ne
  | cons program rest =>
    rw [exec, split]
    cases ground <;> rfl

/-- A program that is to run in the background is started as a job, or the list of jobs and the
host stay as they are. -/
theorem exec_background_cases {arguments line : List String} {name : Option String}
    (split : splitMark arguments = (line, .background name)) (negated : Bool) (s : Session) :
    (∃ t job, (exec negated arguments).run s = .ok () t ∧ Starts s t job ∧ job.name = name) ∨
      ∃ interrupt t, (exec negated arguments).run s = .error interrupt t ∧
        t.jobs = s.jobs ∧ t.host = s.host := by
  by_cases empty : line = []
  · refine .inr ⟨.error (.usage "usage: exec program [args...] [&|&name&]"), s, ?_, rfl, rfl⟩
    rw [exec, split, empty]
    rfl
  · rw [exec_run negated split empty, execBackground_run]
    split
    · exact .inr ⟨_, _, rfl, rfl, rfl⟩
    · next free =>
      split
      · next job h started =>
        obtain ⟨named, expectation, -, new, more, journal⟩ := Job.start_ok started
        refine .inl ⟨_, job, rfl, ⟨rfl, new, more, journal, ?_, expectation, rfl⟩, named⟩
        intro text same
        rw [named] at same
        have other : hasJob { s with stdin := none } text = false := by simpa [same] using free
        exact other
      · next failed => exact .inr ⟨_, _, rfl, rfl, Job.start_error failed⟩

theorem exec_foreground_keeps {arguments line : List String}
    (split : splitMark arguments = (line, .foreground)) (negated : Bool) :
    Keeps Session.Edits (exec negated arguments) := by
  unfold exec
  rw [split]
  refine Orderly.keeps (orderly_bind (orderly_usage _ _) fun _ => orderly_get_bind fun s => ?_)
  exact orderly_bind (launch_orderly _) (fun l => execForeground_orderly l _) s

/-! ### Waiting for jobs -/

/-- What comes of waiting for jobs one after another. -/
structure Collection where
  /-- The jobs that have ended, and their outputs. -/
  outputs : List (Job × Output)
  /-- Why a job could not be waited for to its end, and the jobs from that one on. -/
  left : Option (JobFault × List Job)
  host : Host

/-- How long a job may be waited for, and the host after the look at its clock. -/
def limitAt (deadline : Option Instant) (timeout : Duration) (h : Host) : Duration × Host :=
  match deadline with
  | none => (timeout, h)
  | some limit =>
    (⟨min timeout.nanoseconds (limit.since h.time.1).nanoseconds⟩, h.time.2)

/-- Waits for a job as long as it may be waited for. -/
def await (deadline : Option Instant) (timeout : Duration) (job : Job) (h : Host) :
    Except JobFault Output × Job × Host :=
  job.wait (limitAt deadline timeout h).1 (limitAt deadline timeout h).2

/-- Waits for jobs one after another, up to the first that does not end in time. -/
def collect (deadline : Option Instant) (timeout : Duration) : List Job → Host → Collection
  | [], h => ⟨[], none, h⟩
  | job :: rest, h =>
    match await deadline timeout job h with
    | (.error fault, job, h) => ⟨[], some (fault, job :: rest), h⟩
    | (.ok output, job, h) =>
      let more := collect deadline timeout rest h
      ⟨(job, output) :: more.outputs, more.left, more.host⟩

/-- What is gathered from the outputs of jobs. -/
def Gathered.extend (acc : Gathered) (outputs : List (Job × Output)) : Gathered where
  stdout := acc.stdout ++ String.join (outputs.map fun p => p.2.stdout)
  stderr := acc.stderr ++ String.join (outputs.map fun p => p.2.stderr)
  failures := acc.failures ++ outputs.filterMap fun p => verdict? p.1 p.2

/-- The limit is that of the session, cut at the deadline; to find it takes a look at the clock if
there is one. -/
theorem waitLimit_run (s : Session) :
    waitLimit.run s =
      .ok (limitAt s.deadline s.waitTimeout s.host).1
        { s with host := (limitAt s.deadline s.waitTimeout s.host).2 } := by
  rw [waitLimit, run_get_bind]
  split
  · next none =>
    have unlimited : limitAt s.deadline s.waitTimeout s.host = (s.waitTimeout, s.host) := by
      rw [none, limitAt]
    rw [unlimited]
    rfl
  · next limit some =>
    have limited : limitAt s.deadline s.waitTimeout s.host =
        (⟨min s.waitTimeout.nanoseconds (limit.since s.host.time.1).nanoseconds⟩,
          s.host.time.2) := by
      rw [some, limitAt]
    rw [limited, run_bind_of_ok (onHost_run Host.time s)]
    rfl

theorem Gathered.extend_cons (acc : Gathered) (job : Job) (output : Output)
    (outputs : List (Job × Output)) :
    acc.extend ((job, output) :: outputs) =
      (⟨acc.stdout ++ output.stdout, acc.stderr ++ output.stderr,
        acc.failures ++ (verdict? job output).toList⟩ : Gathered).extend outputs := by
  cases verdict : verdict? job output <;> simp [extend, verdict, String.append_assoc]

theorem Gathered.extend_nil (acc : Gathered) : acc.extend [] = acc := by
  simp [extend]

/-- What is made of a collection: the outputs are gathered, or the jobs that are left go back to
the session. -/
def Collection.outcome (c : Collection) (acc : Gathered) (log : String) (s : Session) :
    EStateM.Result Interrupt Session Gathered :=
  match c.left with
  | none => .ok (acc.extend c.outputs) { s with host := c.host, log := log }
  | some (fault, left) =>
    .error fault.interrupt { s with host := c.host, log := log, jobs := s.jobs ++ left }

/-- Besides what comes of waiting, only the log of the session changes. -/
theorem waitEach_run (acc : Gathered) (jobs : List Job) (s : Session) :
    ∃ log, (waitEach acc jobs).run s =
      (collect s.deadline s.waitTimeout jobs s.host).outcome acc log s := by
  induction jobs generalizing acc s with
  | nil =>
    refine ⟨s.log, ?_⟩
    rw [waitEach, collect, Collection.outcome]
    simp only [Gathered.extend_nil]
    rfl
  | cons job rest ih =>
    cases waited : await s.deadline s.waitTimeout job s.host with
    | mk result more =>
      obtain ⟨job', h⟩ := more
      rw [waitEach, run_bind_of_ok (waitLimit_run s), run_bind_of_ok (onHost_run _ _), collect,
        waited]
      rw [await] at waited
      simp only [waited]
      cases result with
      | error fault => exact ⟨s.log, rfl⟩
      | ok output =>
        obtain ⟨text, written⟩ : ∃ text, (Session.write { s with host := h }
            ("[background] " ++ job'.label ++ ": " ++ output.status)).writeOutput
              output.stdout output.stderr = { s with host := h, log := text } :=
          ⟨_, writeOutput_eq _ _ _⟩
        obtain ⟨log, ran'⟩ := ih ⟨acc.stdout ++ output.stdout, acc.stderr ++ output.stderr,
          acc.failures ++ (verdict? job' output).toList⟩ { s with host := h, log := text }
        rw [← written] at ran'
        refine ⟨log, ran'.trans ?_⟩
        rw [written]
        simp only [Collection.outcome]
        cases (collect s.deadline s.waitTimeout rest h).left with
        | none => rw [Gathered.extend_cons]
        | some left => rfl

/-- The jobs that `wait` takes out of the list, and the others. -/
def taken? (name : Option String) (s : Session) : Option (List Job × List Job) :=
  match name with
  | none => some (s.jobs, [])
  | some name =>
    (s.jobs.find? fun job => job.name == some name).map fun job =>
      ([job], s.jobs.eraseP fun job => job.name == some name)

theorem takeJobs_run (name : Option String) (s : Session) :
    (takeJobs name).run s =
      match taken? name s with
      | some (jobs, others) => .ok jobs { s with jobs := others }
      | none => .error (.error (noJob (name.getD ""))) s := by
  rw [takeJobs, run_get_bind]
  cases name with
  | none => rfl
  | some name =>
    simp only [taken?]
    cases s.jobs.find? fun job => job.name == some name <;> rfl

/-- The jobs that are taken and the others make up the list, both in its order. -/
theorem taken?_parts {name : Option String} {s : Session} {jobs others : List Job}
    (h : taken? name s = some (jobs, others)) :
    (others ++ jobs).Perm s.jobs ∧ others.Sublist s.jobs ∧ jobs.Sublist s.jobs := by
  cases name with
  | none =>
    cases h
    exact ⟨.refl _, List.nil_sublist _, .refl _⟩
  | some name =>
    obtain ⟨job, found, eq⟩ := Option.map_eq_some_iff.mp h
    cases eq
    obtain ⟨same, front, back, split, before⟩ := List.find?_eq_some_iff_append.mp found
    refine ⟨?_, List.eraseP_sublist,
      List.singleton_sublist.mpr (List.mem_of_find?_eq_some found)⟩
    have erased : s.jobs.eraseP (fun job => job.name == some name) = front ++ back := by
      rw [split, List.eraseP_append_right _ (by simpa using before)]
      simp [beq_iff_eq.mp same]
    rw [erased, split, List.append_assoc]
    exact (List.perm_append_singleton job back).append_left front

/-- The jobs that `wait` waits for if it is used as it should be, and the others. -/
def awaited? (arguments : List String) (s : Session) : Option (List Job × List Job) :=
  if arguments.length ≤ 1 then taken? arguments.head? s else none

/-- The jobs that `wait` collects, and their outputs. -/
def collectedBy (arguments : List String) (s : Session) : List (Job × Output) :=
  match awaited? arguments s with
  | some (jobs, _) => (collect s.deadline s.waitTimeout jobs s.host).outputs
  | none => []

/-- The jobs that are taken and those that are left are all the jobs of the session, in the order in
which they were started. -/
theorem awaited?_parts {arguments : List String} {s : Session} {jobs others : List Job}
    (h : awaited? arguments s = some (jobs, others)) :
    (others ++ jobs).Perm s.jobs ∧ others.Sublist s.jobs ∧ jobs.Sublist s.jobs := by
  rw [awaited?] at h
  split at h
  · exact taken?_parts h
  · contradiction

/-- What `wait` answers, given what comes of waiting for the jobs it takes. -/
def Collection.answer (c : Collection) (others : List Job) (log : String) (s : Session) :
    EStateM.Result Interrupt Session Unit :=
  match c.left with
  | some (fault, left) =>
    .error fault.interrupt { s with host := c.host, log := log, jobs := others ++ left }
  | none =>
    let all := (⟨"", "", []⟩ : Gathered).extend c.outputs
    let t := { s with
      host := c.host, log := log, jobs := others, stdout := all.stdout, stderr := all.stderr }
    if all.failures.isEmpty then .ok () t
    else .error (.error (.failed ("\n".intercalate all.failures))) t

/-- A wait for jobs that are there collects them one after another, and answers with what has been
collected. -/
theorem wait_run {arguments : List String} {s : Session} {jobs others : List Job}
    (taken : awaited? arguments s = some (jobs, others)) (negated : Bool) :
    ∃ log, (wait negated arguments).run s =
      (collect s.deadline s.waitTimeout jobs s.host).answer others log s := by
  rw [awaited?] at taken
  split at taken
  · next few =>
    obtain ⟨log, ran⟩ := waitEach_run ⟨"", "", []⟩ jobs { s with jobs := others }
    refine ⟨log, ?_⟩
    have used : (usage (decide (arguments.length ≤ 1)) "wait [name]").run s = .ok () s := by
      rw [decide_eq_true few]
      rfl
    have took : (takeJobs arguments.head?).run s = .ok jobs { s with jobs := others } := by
      rw [takeJobs_run, taken]
    rw [wait, run_bind_of_ok used, run_bind_of_ok took]
    rw [Collection.outcome] at ran
    rw [Collection.answer]
    generalize collect s.deadline s.waitTimeout jobs s.host = c at ran ⊢
    cases left : c.left with
    | none =>
      rw [left] at ran
      rw [run_bind_of_ok ran]
      simp only
      split <;> rfl
    | some left =>
      rw [left] at ran
      rw [run_bind_of_error ran]
  · contradiction

/-- A wait for a job that is not there is a misuse, and changes nothing. -/
theorem wait_refused {arguments : List String} {s : Session}
    (taken : awaited? arguments s = none) (negated : Bool) :
    ∃ text, (wait negated arguments).run s = .error (.error (.usage text)) s := by
  rw [awaited?] at taken
  split at taken
  · next few =>
    have used : (usage (decide (arguments.length ≤ 1)) "wait [name]").run s = .ok () s := by
      rw [decide_eq_true few]
      rfl
    have refused := takeJobs_run arguments.head? s
    rw [taken] at refused
    rw [wait, run_bind_of_ok used, run_bind_of_error refused]
    exact ⟨_, rfl⟩
  · next many =>
    have refused : (usage (decide (arguments.length ≤ 1)) "wait [name]").run s =
        .error (.error (.usage "usage: wait [name]")) s := by
      rw [decide_eq_false many]
      rfl
    rw [wait, run_bind_of_error refused]
    exact ⟨_, rfl⟩

/-- `wait` is refused, or it collects jobs and answers what comes of it. -/
theorem wait_cases (negated : Bool) (arguments : List String) (s : Session) :
    (collectedBy arguments s = [] ∧
      ∃ text, (wait negated arguments).run s = .error (.error (.usage text)) s) ∨
    ∃ jobs others log, awaited? arguments s = some (jobs, others) ∧
      collectedBy arguments s = (collect s.deadline s.waitTimeout jobs s.host).outputs ∧
      (wait negated arguments).run s =
        (collect s.deadline s.waitTimeout jobs s.host).answer others log s := by
  rw [collectedBy]
  cases taken : awaited? arguments s with
  | none => exact .inl ⟨rfl, wait_refused taken negated⟩
  | some parts =>
    obtain ⟨jobs, others⟩ := parts
    obtain ⟨log, answers⟩ := wait_run taken negated
    exact .inr ⟨jobs, others, log, rfl, rfl, answers⟩

/-! ### What becomes of the jobs -/

/-- The jobs that were not collected. -/
def Collection.survivors (c : Collection) : List Job :=
  (c.left.map Prod.snd).getD []

theorem sessionAfter_answer (c : Collection) (others : List Job) (log : String) (s : Session) :
    (sessionAfter (c.answer others log s)).jobs = others ++ c.survivors ∧
      (sessionAfter (c.answer others log s)).host = c.host := by
  rw [Collection.answer, Collection.survivors]
  cases c.left with
  | some left => exact ⟨rfl, rfl⟩
  | none =>
    rw [Option.map_none, Option.getD_none, List.append_nil]
    simp only
    split <;> exact ⟨rfl, rfl⟩

/-- A job has ended with an output, which tells how its process ended or had been known
before. -/
def EndsWith (job : Job) (ended : Job × Output) : Prop :=
  ended.1 = { job with output := some ended.2 } ∧
    (job.output = some ended.2 ∨ ∃ status out err, ended.2 = .ofStatus status out err)

/-- Every output that has been collected belongs to one of the jobs. -/
theorem exists_endsWith {jobs : List Job} {outputs : List (Job × Output)}
    (h : List.Forall₂ EndsWith jobs outputs) :
    ∀ ended ∈ outputs, ∃ job ∈ jobs, EndsWith job ended := by
  induction h with
  | nil => simp
  | @cons job ended _ _ ends _ ih =>
    refine List.forall_mem_cons.mpr ⟨⟨job, List.mem_cons_self, ends⟩, fun other mem => ?_⟩
    obtain ⟨job, memJob, ends⟩ := ih other mem
    exact ⟨job, List.mem_cons_of_mem _ memJob, ends⟩

/-- Jobs are collected from the front of the list, each with its own output, and the others are
left as they are. -/
theorem collect_parts (deadline : Option Instant) (timeout : Duration) (jobs : List Job)
    (h : Host) :
    ∃ front, jobs = front ++ (collect deadline timeout jobs h).survivors ∧
      List.Forall₂ EndsWith front (collect deadline timeout jobs h).outputs := by
  induction jobs generalizing h with
  | nil => exact ⟨[], rfl, .nil⟩
  | cons job rest ih =>
    rw [collect]
    cases waited : await deadline timeout job h with
    | mk result more =>
      obtain ⟨job', h'⟩ := more
      cases result with
      | error fault =>
        obtain ⟨same, -⟩ := Job.wait_error waited
        exact ⟨[], by rw [same]; rfl, .nil⟩
      | ok output =>
        obtain ⟨front, split, ended⟩ := ih h'
        refine ⟨job :: front, ?_, .cons (Job.wait_ok waited) ended⟩
        rw [List.cons_append, List.cons.injEq]
        exact ⟨rfl, split⟩

theorem await_grows (deadline : Option Instant) (timeout : Duration) (job : Job) (h : Host) :
    h.Grows (await deadline timeout job h).2.2 := by
  have looked : h.Grows (limitAt deadline timeout h).2 := by
    unfold limitAt
    split
    · exact .refl h
    · exact h.time_grows
  exact looked.trans (job.wait_grows _ _)

theorem collect_grows (deadline : Option Instant) (timeout : Duration) (jobs : List Job)
    (h : Host) : h.Grows (collect deadline timeout jobs h).host := by
  induction jobs generalizing h with
  | nil => exact .refl h
  | cons job rest ih =>
    have awaited := await_grows deadline timeout job h
    rw [collect]
    cases waited : await deadline timeout job h with
    | mk result more =>
      rw [waited] at awaited
      cases result with
      | error fault => exact awaited
      | ok output => exact awaited.trans (ih _)

/-- Jobs are only left if one of them did not end in time. -/
theorem fault_of_collect {deadline : Option Instant} {timeout : Duration} {jobs left : List Job}
    {h : Host} {fault : JobFault}
    (more : (collect deadline timeout jobs h).left = some (fault, left)) :
    ∃ program after, fault = .error (.timeout program after) := by
  induction jobs generalizing h with
  | nil => cases more
  | cons job rest ih =>
    rw [collect] at more
    cases waited : await deadline timeout job h with
    | mk result ended =>
      rw [waited] at more
      cases result with
      | error known =>
        cases more
        obtain ⟨-, after, timeout⟩ := Job.wait_error waited
        exact ⟨_, after, timeout⟩
      | ok output => exact ih more

end Programs
end ScriptSuite
