import ScriptSuite.Proofs.Host.Ending
import ScriptSuite.Proofs.Suite.Accounting

/-!
Programs are judged alike, in the foreground and in the background.

`exec` judges a program by what its instruction expects, and `wait` by what was expected when
the program was started. Both come to `Expectation.accepts`: an `exec` in the foreground lets
the run go on if the output of its program is accepted (`goesOn_iff_accepts`), and so does
`wait` if all outputs are that it collects. So `wait` goes on if and only if each of the
programs would have let the run go on in the foreground (`wait_goesOn_iff_foreground`).
-/

namespace ScriptSuite

open Handler Session

/-- Whether a program may end so if that is expected of it. -/
def Expectation.accepts (expectation : Expectation) (output : Output) : Bool :=
  match expectation with
  | .success => output.isSuccess
  | .failure => !output.isSuccess
  | .either => true

/-- The two programs have ended in the same way. -/
def Output.EndsAs (output other : Output) : Prop :=
  output.exitCode = other.exitCode ∧ output.signal = other.signal

/-- Only the status of an output is judged, not what has been written. -/
theorem Expectation.accepts_congr {output other : Output} (same : output.EndsAs other)
    (expectation : Expectation) : expectation.accepts output = expectation.accepts other := by
  have success : output.isSuccess = other.isSuccess := by
    rw [Output.isSuccess, Output.isSuccess, same.1]
  cases expectation <;> simp only [accepts, success]

namespace Programs

/-- A job is faultless if and only if its expectation accepts its output. -/
theorem verdict?_eq_none_iff {job : Job} {output : Output} :
    verdict? job output = none ↔ job.expectation.accepts output = true := by
  cases expectation : job.expectation <;> cases success : output.isSuccess <;>
    simp [verdict?, Expectation.accepts, expectation, success]

/-- What `wait` answers if all jobs that it waits for have ended: the outputs are kept, and it
succeeds if all of them are accepted. -/
theorem answer_of_all {c : Collection} (all : c.left = none) (others : List Job) (log : String)
    (s : Session) :
    ∃ t, t.stdout = String.join (c.outputs.map fun p => p.2.stdout) ∧
      t.stderr = String.join (c.outputs.map fun p => p.2.stderr) ∧
      t.isDeferred = s.isDeferred ∧
      if ∀ ended ∈ c.outputs, ended.1.expectation.accepts ended.2 = true then
        c.answer others log s = .ok () t
      else ∃ text, c.answer others log s = .error (.error (.failed text)) t := by
  obtain ⟨gathered, hgathered⟩ : ∃ g, g = (⟨"", "", []⟩ : Gathered).extend c.outputs := ⟨_, rfl⟩
  refine ⟨{ s with
    host := c.host, log := log, jobs := others
    stdout := gathered.stdout, stderr := gathered.stderr }, ?_, ?_, rfl, ?_⟩
  · simp [hgathered, Gathered.extend]
  · simp [hgathered, Gathered.extend]
  · have none : gathered.failures.isEmpty = true ↔
        ∀ ended ∈ c.outputs, ended.1.expectation.accepts ended.2 = true := by
      simp only [hgathered, Gathered.extend, List.nil_append, List.isEmpty_iff,
        List.filterMap_eq_nil_iff, verdict?_eq_none_iff]
    rw [Collection.answer, all]
    simp only [← hgathered, none]
    split
    · rfl
    · exact ⟨_, rfl⟩

end Programs

namespace Engine

/-- The instruction runs a program in the foreground, and the program ends with the output. -/
def RunsForeground (e : Engine) (inst : Instruction) (s : Session) (output : Output) : Prop :=
  ∃ call line h, e.call? s inst = some call ∧ call.command.run = Programs.exec ∧
    Programs.splitMark call.arguments = (line, .foreground) ∧ line ≠ [] ∧
    call.session.host.runForeground (Programs.launchOf call.session line)
      call.session.deadline = (.ok output, h)

section

variable {e : Engine} {s : Session} {inst : Instruction} {output : Output} {call : Call}

/-- A program in the foreground lets the run go on if its output is accepted. -/
theorem goesOn_iff_accepts (runs : e.RunsForeground inst s output) :
    (e.step inst s).1 = .goesOn ↔ inst.expectation.accepts output = true := by
  obtain ⟨call, line, h, called, isExec, split, ne, ran⟩ := runs
  obtain ⟨t, -, session⟩ := edits_of_call called
  obtain ⟨log, answers⟩ := Programs.execForeground_run (s := { call.session with stdin := none })
    ran (line.headD "")
  have judged : call.session.isDeferred = false := by
    rw [session]
    rfl
  rw [step_of_call called, Call.answer, isExec, Programs.exec_run _ split ne]
  simp only
  rw [answers]
  cases success : output.isSuccess with
  | true =>
    cases expectation : inst.expectation <;>
      simp [endOf, judged, Expectation.accepts, success]
  | false =>
    cases expectation : inst.expectation <;>
      simp [endOf, judged, judgeError, Expectation.accepts, success]

/-- A program that has been started in the background lets the run go on, and what its
instruction expects is kept for `wait`. -/
theorem goesOn_of_background {line : List String} {name : Option String}
    (called : e.call? s inst = some call) (isExec : call.command.run = Programs.exec)
    (split : Programs.splitMark call.arguments = (line, .background name))
    (started : (e.step inst s).2.jobs ≠ s.jobs) :
    (e.step inst s).1 = .goesOn ∧ ∃ job, (e.step inst s).2.jobs = s.jobs ++ [job] ∧
      job.expectation = inst.expectation := by
  obtain ⟨t, edits, session⟩ := edits_of_call called
  have jobs : call.session.jobs = s.jobs := by
    rw [session, ← edits.jobs]
    rfl
  have expectation : call.session.expectation = inst.expectation := by
    rw [session]
    rfl
  obtain ⟨log, logged⟩ := endOf_log inst.expectation (!s.hasStarted) (call.answer inst)
  rw [step_of_call called, logged] at started
  rw [step_of_call called, logged]
  rcases Programs.exec_background_cases split inst.expectation.isNegated call.session with
    ⟨u, job, ran, starts, -⟩ | ⟨interrupt, u, refused, same, -⟩
  · have answers : call.answer inst = .ok () u := by rw [Call.answer, isExec, ran]
    rw [answers]
    refine ⟨?_, job, jobs ▸ starts.jobs, starts.expectation.trans expectation⟩
    simp [endOf, starts.deferred]
  · have answers : call.answer inst = .error interrupt u := by rw [Call.answer, isExec, refused]
    rw [answers] at started
    exact absurd (same.trans jobs) started

/-- What `wait` comes to if all jobs that it waits for end in time. -/
theorem step_of_wait {jobs others : List Job}
    (called : e.call? s inst = some call) (isWait : call.command = ⟨false, Programs.wait⟩)
    (taken : Programs.awaited? call.arguments call.session = some (jobs, others))
    (inTime : ∀ program after,
      (e.step inst s).1 ≠ .fails (.command (.job (.timeout program after)))) :
    List.Forall₂ Programs.EndsWith jobs (Programs.collectedBy call.arguments call.session) ∧
    ((e.step inst s).1 = .goesOn ↔
      ∀ ended ∈ Programs.collectedBy call.arguments call.session,
        ended.1.expectation.accepts ended.2 = true) ∧
    (e.step inst s).2.stdout =
      String.join ((Programs.collectedBy call.arguments call.session).map fun p => p.2.stdout) ∧
    (e.step inst s).2.stderr =
      String.join ((Programs.collectedBy call.arguments call.session).map fun p => p.2.stderr) := by
  obtain ⟨t, -, session⟩ := edits_of_call called
  have judged : call.session.isDeferred = false := by
    rw [session]
    rfl
  have plain : inst.expectation = .success := by
    obtain ⟨u, t, -, -, -, takes, -⟩ := call?_eq_some_iff.mp called
    simpa [isWait] using takes
  obtain ⟨log, answers⟩ := Programs.wait_run taken inst.expectation.isNegated
  obtain ⟨c, collected⟩ : ∃ c, Programs.collect call.session.deadline call.session.waitTimeout
      jobs call.session.host = c := ⟨_, rfl⟩
  have parts := Programs.collect_parts call.session.deadline call.session.waitTimeout jobs
    call.session.host
  have outputs : Programs.collectedBy call.arguments call.session = c.outputs := by
    rw [Programs.collectedBy, taken, ← collected]
  have answer : call.answer inst = c.answer others log call.session := by
    rw [Call.answer, isWait, answers, collected]
  rw [collected] at parts
  rw [step_of_call called, answer, plain] at inTime
  rw [step_of_call called, answer, plain, outputs]
  obtain ⟨front, split, ends⟩ := parts
  cases more : c.left with
  | some left =>
    obtain ⟨fault, left⟩ := left
    obtain ⟨program, after, rfl⟩ := Programs.fault_of_collect (collected ▸ more)
    refine absurd ?_ (inTime program after)
    rw [Programs.Collection.answer, more]
    simp [endOf, JobFault.interrupt, judged, judgeError]
  | none =>
    rw [Programs.Collection.survivors, more, Option.map_none, Option.getD_none,
      List.append_nil] at split
    obtain ⟨t, stdout, stderr, deferred, answered⟩ :=
      Programs.answer_of_all more others log call.session
    refine ⟨split ▸ ends, ?_⟩
    by_cases accepted : ∀ ended ∈ c.outputs, ended.1.expectation.accepts ended.2 = true
    · rw [if_pos accepted] at answered
      rw [answered]
      refine ⟨iff_of_true ?_ accepted, ?_, ?_⟩ <;> simp [endOf, stdout, stderr]
    · rw [if_neg accepted] at answered
      obtain ⟨text, answered⟩ := answered
      rw [judged] at deferred
      rw [answered]
      refine ⟨iff_of_false ?_ accepted, ?_, ?_⟩ <;>
        simp [endOf, judgeError, deferred, stdout, stderr]

/-- The files of a host that has one program. -/
def oneProgram : Listing :=
  .folder ['b', 'i', 'n'] 0o755 (.file ['p'] ⟨Node.nativeMark, 0o755, false⟩ .empty) .empty

/-- A session on a host whose program ends with a status. -/
def endingSession (status : ExitStatus) : Session :=
  { Session.ofFiles oneProgram with
    host := { Session.hostOf oneProgram with
      load := fun _ => .ok status.behaviour, patience := 2 } }

/-- An instruction that runs the program. -/
def runProgram (expectation : Expectation) : Instruction :=
  ⟨1, "exec p", [], expectation, "exec", [Word.ofLiteral "p"]⟩

theorem behaviourOf_endingSession (status : ExitStatus) :
    (endingSession status).host.behaviourOf
      (Programs.launchOf (endingSession status) ["p"]) = .ok status.behaviour := by
  obtain ⟨l, launch⟩ : ∃ l, l = Programs.launchOf (Session.ofFiles oneProgram) ["p"] := ⟨_, rfl⟩
  have same : Programs.launchOf (endingSession status) ["p"] = l := launch ▸ rfl
  have clean : (l.arguments.any Host.hasNull ||
      l.environment.any fun e => Host.hasNull e.1 || Host.hasNull e.2) = false := by
    rw [launch]
    decide +kernel
  have placed : (Session.hostOf oneProgram).place l.folder = .ok [] := by
    rw [launch]
    decide +kernel
  have image : (Session.hostOf oneProgram).files.findImage [] l.environment
      (l.arguments.headD "") l.arguments = .ok (Node.nativeMark, ["p"]) := by
    rw [launch]
    decide +kernel
  rw [same, Host.behaviourOf, if_neg (by rw [clean]; exact Bool.false_ne_true)]
  have placed' : (endingSession status).host.place l.folder = .ok [] := placed
  have image' : (endingSession status).host.files.findImage [] l.environment
      (l.arguments.headD "") l.arguments = .ok (Node.nativeMark, ["p"]) := image
  have root : (endingSession status).host.files.find? [] = some (.folder 0o755 oneProgram) := rfl
  simp only [placed', root, image']
  rfl

/-- What is started does not depend on the instruction that starts it. -/
theorem launchOf_calling (s : Session) (inst : Instruction) (line : List String) :
    Programs.launchOf (calling (announced s inst) inst) line = Programs.launchOf s line :=
  rfl

/-- Each status is that of a program in the foreground, whatever is expected of it. -/
theorem exists_runsForeground (expectation : Expectation) (status : ExitStatus) :
    ∃ e inst s out err, RunsForeground e inst s (.ofStatus status out err) ∧
      inst.expectation = expectation := by
  have patience : (endingSession status).host.patience = 0 + 2 := rfl
  obtain ⟨out, err, h, ran⟩ :=
    Host.runForeground_ending (behaviourOf_endingSession status) rfl rfl rfl patience
  have called : (plain false).call? (endingSession status) (runProgram expectation) =
      some ⟨⟨true, Programs.exec⟩, ["p"],
        calling (announced (endingSession status) (runProgram expectation))
          (runProgram expectation)⟩ :=
    call?_eq_some_iff.mpr ⟨endingSession status, announced (endingSession status) _, rfl, rfl,
      rfl, .inr rfl, rfl, rfl⟩
  rw [← launchOf_calling] at ran
  exact ⟨plain false, runProgram expectation, endingSession status, out, err,
    ⟨_, ["p"], h, called, rfl, rfl, List.cons_ne_nil _ _, ran⟩, rfl⟩

/-- What is expected of a program in the background is what was expected when it was started.
If all programs that `wait` waits for end in time, it collects all of them in the order in
which they were started; it goes on if and only if each of them would have let the run go on if
it had been run in the foreground, with the same expectation, and had ended in the same way;
and their outputs are kept one after the other, whether it goes on or not. An output that was
known before tells the status that a process ended with, as all outputs do (`ended`). -/
theorem wait_goesOn_iff_foreground {jobs others : List Job}
    (called : e.call? s inst = some call) (isWait : call.command = ⟨false, Programs.wait⟩)
    (taken : Programs.awaited? call.arguments call.session = some (jobs, others))
    (ended : ∀ job ∈ jobs, ∀ output, job.output = some output →
      ∃ status out err, output = .ofStatus status out err)
    (inTime : ∀ program after,
      (e.step inst s).1 ≠ .fails (.command (.job (.timeout program after)))) :
    (∀ e' inst' s' call' line name, Engine.call? e' s' inst' = some call' →
      call'.command.run = Programs.exec →
      Programs.splitMark call'.arguments = (line, .background name) →
      (e'.step inst' s').2.jobs ≠ s'.jobs →
      (e'.step inst' s').1 = .goesOn ∧ ∃ job, (e'.step inst' s').2.jobs = s'.jobs ++ [job] ∧
        job.expectation = inst'.expectation) ∧
    (jobs.Sublist call.session.jobs ∧
      List.Forall₂ Programs.EndsWith jobs
        (Programs.collectedBy call.arguments call.session)) ∧
    ((e.step inst s).1 = .goesOn ↔
      ∀ collected ∈ Programs.collectedBy call.arguments call.session,
        ∀ e' inst' s' output, RunsForeground e' inst' s' output →
          inst'.expectation = collected.1.expectation → output.EndsAs collected.2 →
          (e'.step inst' s').1 = .goesOn) ∧
    (e.step inst s).2.stdout =
      String.join ((Programs.collectedBy call.arguments call.session).map fun p => p.2.stdout) ∧
    (e.step inst s).2.stderr =
      String.join ((Programs.collectedBy call.arguments call.session).map fun p => p.2.stderr) := by
  obtain ⟨ends, goesOn, stdout, stderr⟩ := step_of_wait called isWait taken inTime
  refine ⟨fun e' inst' s' call' line name called isExec split started =>
    goesOn_of_background called isExec split started,
    ⟨(Programs.awaited?_parts taken).2.2, ends⟩, ?_, stdout, stderr⟩
  · rw [goesOn]
    constructor
    · intro accepted collected mem e' inst' s' output runs same endsAs
      rw [goesOn_iff_accepts runs, same, Expectation.accepts_congr endsAs]
      exact accepted collected mem
    · intro foreground collected mem
      obtain ⟨job, memJob, -, known⟩ := Programs.exists_endsWith ends collected mem
      obtain ⟨status, out, err, output⟩ : ∃ status out err,
          collected.2 = .ofStatus status out err := by
        rcases known with known | known
        · exact ended job memJob _ known
        · exact known
      obtain ⟨e', inst', s', out', err', runs, same⟩ :=
        exists_runsForeground collected.1.expectation status
      have endsAs : (Output.ofStatus status out' err').EndsAs collected.2 := by
        rw [output]
        exact ⟨rfl, rfl⟩
      have accepted := (goesOn_iff_accepts runs).mp
        (foreground collected mem e' inst' s' _ runs same endsAs)
      rwa [same, Expectation.accepts_congr endsAs] at accepted

/-- Three jobs, one for each expectation, of which the last two fail. -/
def alikeSource : String := "exec p &\n! exec p x &\n? exec p y &\nwait\n"

/-- What the last instruction of a script calls, and the session that it is run in. -/
def lastCall? (source : String) : Option (Instruction × Session × Call) := do
  let s ← hastySession? source
  let inst ← s.script.instructions.getLast?
  let t := (hasty.runInstructions s.script.instructions.dropLast s).2
  let call ← hasty.call? t inst
  pure (inst, t, call)

theorem call?_of_lastCall? {source : String} (h : lastCall? source = some (inst, s, call)) :
    hasty.call? s inst = some call := by
  simp only [lastCall?, bind, Option.bind_eq_some_iff, pure, Option.some.injEq] at h
  obtain ⟨_, -, _, -, _, called, same⟩ := h
  cases same
  exact called

theorem wait_goesOn_iff_foreground_alike :
    ∃ inst s call, lastCall? alikeSource = some (inst, s, call) ∧
      (Programs.collectedBy [] call.session).length = 3 ∧
      (∀ collected ∈ Programs.collectedBy [] call.session,
        ∀ e' inst' s' output, RunsForeground e' inst' s' output →
          inst'.expectation = collected.1.expectation → output.EndsAs collected.2 →
          (e'.step inst' s').1 = .goesOn) ∧
      (hasty.step inst s).1 = .goesOn ∧ (hasty.step inst s).2.stdout = "xy" := by
  have ran : (lastCall? alikeSource).map (fun p =>
      ((p.1.name, p.2.2.arguments, p.2.2.session.jobs.map Job.output),
        (hasty.step p.1 p.2.1).1, (hasty.step p.1 p.2.1).2.stdout,
        (Programs.collectedBy [] p.2.2.session).length)) =
        some (("wait", [], [none, none, none]), .goesOn, "xy", 3) := by
    decide +kernel
  obtain ⟨⟨inst, s, call⟩, last, results⟩ := Option.map_eq_some_iff.mp ran
  simp only [Prod.mk.injEq] at results
  obtain ⟨⟨name, arguments, running⟩, goesOn, stdout, three⟩ := results
  have called := call?_of_lastCall? last
  have isWait : call.command = ⟨false, Programs.wait⟩ := by
    have known : hasty.registry.command? "wait" = some ⟨false, Programs.wait⟩ := rfl
    have found := command_of_call called
    rw [name, known] at found
    exact (Option.some.inj found).symm
  have taken : Programs.awaited? call.arguments call.session = some (call.session.jobs, []) := by
    rw [arguments]
    rfl
  have ended : ∀ job ∈ call.session.jobs, ∀ output, job.output = some output →
      ∃ status out err, output = .ofStatus status out err := by
    intro job mem output known
    have unknown := List.mem_map_of_mem (f := Job.output) mem
    simp [running, known] at unknown
  have inTime : ∀ program after,
      (hasty.step inst s).1 ≠ .fails (.command (.job (.timeout program after))) := by
    intro program after
    rw [goesOn]
    exact StepEnd.noConfusion
  have alike := (wait_goesOn_iff_foreground called isWait taken ended inTime).2.2.1.mp goesOn
  rw [arguments] at alike
  exact ⟨inst, s, call, last, three, alike, goesOn, stdout⟩

end

end Engine
end ScriptSuite
