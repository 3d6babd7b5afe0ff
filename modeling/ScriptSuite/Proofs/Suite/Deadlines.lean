import ScriptSuite.Proofs.Host.Ending
import ScriptSuite.Proofs.Host.Waiting
import ScriptSuite.Proofs.Suite.Aftermath
import ScriptSuite.Suite.ConfigText

/-!
Deadlines that cannot be represented.

Two deadlines are found by adding a length of time to the time of the clock: that of a script when
its session is set up, and that of a job when it has been sent a kill. A run gives up on its script
if one of these sums is not a point in time that can be represented, and for no other reason
(`Calm.run_panicked_iff`). For the limit of `wait` nothing is added: one that ends beyond all points
in time is as good as none (`collect_unlimited`).
-/

namespace ScriptSuite

open Handler

/-! ### Waiting without an end -/

namespace Programs

variable {deadline : Option Instant} {timeout longer : Duration} {h : Host}

/-- A deadline that can be represented comes before the end of a limit that cannot. -/
theorem limitAt_longer {limit : Instant} (fits : limit.Fits)
    (overflow : h.time.1.plus? timeout = none) (le : timeout.nanoseconds ≤ longer.nanoseconds) :
    limitAt (some limit) longer h = limitAt (some limit) timeout h := by
  have before : (limit.since h.time.1).nanoseconds ≤ timeout.nanoseconds := by
    refine Nat.sub_le_of_le_add (Nat.le_of_not_le fun beyond => ?_)
    have start : (h.time.1.later timeout.nanoseconds).nanoseconds ≤ limit.nanoseconds := by
      rwa [Instant.later, Nat.add_comm]
    exact Instant.plus?_eq_none_iff_not_fits.mp overflow (fits.mono start)
  rw [limitAt, limitAt, Nat.min_eq_right before, Nat.min_eq_right (Nat.le_trans before le)]

theorem later_await (deadline : Option Instant) (timeout : Duration) (job : Job) (h : Host) :
    h.Later (await deadline timeout job h).2.2 := by
  have waited (d : Duration) (h : Host) := job.wait_watching Host.passing_later.watching d h
  cases deadline with
  | none => exact waited timeout h
  | some limit => exact Nat.le_trans (Host.passing_later.elapsing.time h) (waited _ h.time.2)

/-- Time never goes back while jobs are collected. -/
theorem later_collect (deadline : Option Instant) (timeout : Duration) (jobs : List Job)
    (h : Host) : h.Later (collect deadline timeout jobs h).host := by
  induction jobs generalizing h with
  | nil => exact Nat.le_refl _
  | cons job rest ih =>
    have awaited := later_await deadline timeout job h
    rw [collect]
    generalize await deadline timeout job h = ended at awaited ⊢
    obtain ⟨_ | output, job', h'⟩ := ended
    · exact awaited
    · exact Nat.le_trans awaited (ih h')

/-- The next job is not waited for from an earlier time on. -/
theorem time_le_await (deadline : Option Instant) (timeout : Duration) (job : Job) (h : Host) :
    h.time.1.nanoseconds ≤ (await deadline timeout job h).2.2.time.1.nanoseconds := by
  have timed := Host.passing_later.elapsing.time (await deadline timeout job h).2.2
  cases deadline with
  | some limit => exact Nat.le_trans (job.wait_watching Host.passing_later.watching _ h.time.2) timed
  | none =>
    cases collected : job.output with
    | some output =>
      have same : await none timeout job h = (.ok output, job, h) := by
        rw [await, Job.wait, collected]
        rfl
      rw [same]
    | none =>
      exact Nat.le_trans (Job.wait_watching_time Host.passing_later.watching collected timeout h) timed

theorem await_unlimited (deadlineFits : ∀ limit ∈ deadline, limit.Fits) {job : Job}
    (overflow : h.time.1.plus? timeout = none)
    (fits : (await deadline timeout job h).2.2.clock.now.Fits)
    (le : timeout.nanoseconds ≤ longer.nanoseconds) :
    await deadline longer job h = await deadline timeout job h ∧
      (deadline = none → ∃ output, (await deadline timeout job h).1 = .ok output) := by
  cases deadline with
  | none =>
    obtain ⟨ends, same⟩ := Job.wait_unlimited overflow fits
    exact ⟨same longer le, fun _ => ends⟩
  | some limit =>
    rw [await, await, limitAt_longer (deadlineFits limit rfl) overflow le]
    exact ⟨rfl, fun noDeadline => by cases noDeadline⟩

/-- A limit that ends at no point in time that can be represented is no limit: the same is collected
with each longer one, and no job is left over but for the deadline of the script. -/
theorem collect_unlimited (deadlineFits : ∀ limit ∈ deadline, limit.Fits) {jobs : List Job}
    (overflow : h.time.1.plus? timeout = none)
    (fits : (collect deadline timeout jobs h).host.clock.now.Fits)
    (le : timeout.nanoseconds ≤ longer.nanoseconds) :
    collect deadline longer jobs h = collect deadline timeout jobs h ∧
      (deadline = none → (collect deadline timeout jobs h).left = none) := by
  induction jobs generalizing h with
  | nil => exact ⟨rfl, fun _ => rfl⟩
  | cons job rest ih =>
    have started := time_le_await deadline timeout job h
    have awaited (here : (await deadline timeout job h).2.2.clock.now.Fits) :=
      await_unlimited deadlineFits overflow here le
    rw [collect] at fits
    rw [collect, collect]
    -- the clock that fits at the end has fitted when the wait for this job was over
    generalize await deadline timeout job h = ended at started awaited fits ⊢
    obtain ⟨_ | output, job', h'⟩ := ended
    · obtain ⟨same, ends⟩ := awaited fits
      rw [same]
      refine ⟨rfl, fun noDeadline => ?_⟩
      obtain ⟨output, ended⟩ := ends noDeadline
      cases ended
    · have later : h'.Later (collect deadline timeout rest h').host :=
        later_collect deadline timeout rest h'
      have overflow' : h'.time.1.plus? timeout = none := by
        rw [Instant.plus?_eq_none_iff_not_fits] at overflow ⊢
        exact fun early => overflow (early.mono (Nat.add_le_add_right started _))
      obtain ⟨same, none⟩ := ih overflow' fits
      rw [(awaited (fits.mono later)).1]
      simp only [same, true_and]
      exact none

end Programs

/-! ### Jobs that are killed -/

namespace Job

/-- When the job is sent a kill if it is terminated, and it is running. -/
def killedAt? (j : Job) (h : Host) : Option Instant :=
  match j.isRunning h with
  | (false, _) => none
  | (true, h) => some (h.kill j.process.id).time.1

/-- When those of the jobs are sent a kill that are running, if one after another is
terminated. -/
def killTimes (grace : Duration) : List Job → Host → List Instant
  | [], _ => []
  | job :: rest, h => (job.killedAt? h).toList ++ killTimes grace rest (job.terminate grace h).2

/-- To end a job overflows if and only if it is running and the grace after its kill cannot be
represented. -/
theorem terminate_overflow_iff {j : Job} {grace : Duration} {h : Host} :
    (j.terminate grace h).1 = .error .overflow ↔
      ∃ now, j.killedAt? h = some now ∧ now.plus? grace = none := by
  rw [terminate, killedAt?]
  obtain ⟨running, h₁⟩ := j.isRunning h
  cases running with
  | false => simp
  | true =>
    simp only [Option.some.injEq, exists_eq_left']
    generalize (h₁.kill j.process.id).time = time
    obtain ⟨now, h₂⟩ := time
    cases now.plus? grace with
    | none => simp
    | some limit =>
      simp only [reduceCtorEq, iff_false]
      generalize pollGone j.process.id limit _ h₂ = polled
      obtain ⟨_ | _, h₃⟩ := polled <;> simp

theorem exists_killTimes_cons_iff {job : Job} {rest : List Job} {grace : Duration} {h : Host} :
    (∃ now ∈ killTimes grace (job :: rest) h, now.plus? grace = none) ↔
      (job.terminate grace h).1 = .error .overflow ∨
        ∃ now ∈ killTimes grace rest (job.terminate grace h).2, now.plus? grace = none := by
  simp only [terminate_overflow_iff, killTimes, List.mem_append, Option.mem_toList, or_and_right,
    exists_or]

end Job

namespace Session

variable {s : Session}

/-- To end some jobs overflows if and only if one of them does; the ones before it have been ended
by then. -/
theorem endJobs_eq_none_iff (grace : Duration) (jobs : List Job) (warnings : List String)
    (h : Host) :
    (endJobs grace jobs warnings h).1 = none ↔
      ∃ now ∈ Job.killTimes grace jobs h, now.plus? grace = none := by
  induction jobs generalizing warnings h with
  | nil => simp [endJobs, Job.killTimes]
  | cons job rest ih =>
    rw [endJobs, Job.exists_killTimes_cons_iff]
    rcases job.terminate_cases grace h with ⟨error, -, result⟩ | ⟨result, -⟩
    · generalize job.terminate grace h = ended at result ⊢
      obtain ⟨found, h'⟩ := ended
      cases error <;> cases result <;> simp [ih]
    · generalize job.terminate grace h = ended at result ⊢
      obtain ⟨found, h'⟩ := ended
      cases result
      simp

/-- When the jobs of a session that are running are sent a kill if it is torn down. -/
def killTimes (s : Session) : List Instant :=
  Job.killTimes s.teardownGrace s.jobs s.host

theorem teardown_eq_false_iff :
    s.teardown.1 = false ↔ ∃ now ∈ s.killTimes, now.plus? s.teardownGrace = none := by
  have failed := endJobs_eq_none_iff s.teardownGrace s.jobs s.warnings s.host
  rw [killTimes, ← failed, teardown]
  generalize endJobs s.teardownGrace s.jobs s.warnings s.host = ended
  obtain ⟨_ | warnings, h⟩ := ended <;> simp

end Session

namespace Engine

variable {e : Engine} {name : String} {path : Location} {start : Instant} {h : Host} {s : Session}
  {inst : Instruction}

/-! ### Handlers that do not give up -/

/-- Neither a command of the engine nor its hook gives up on a script. -/
structure Calm (e : Engine) : Prop where
  commands : ∀ name c, e.registry.command? name = some c → ∀ negated arguments,
    Handler.Calm (c.run negated arguments)
  setup : ∀ hook, e.params.setup = some hook → Handler.Calm hook

/-- The built-in commands never give up on a script. -/
theorem calm_of_make {language : PatternLanguage} {params : RunParams}
    (made : make language params = .ok e)
    (added : ∀ entry ∈ params.commands, ∀ negated arguments,
      Handler.Calm (entry.2.run negated arguments))
    (setup : ∀ hook, params.setup = some hook → Handler.Calm hook) : e.Calm where
  commands name c found negated arguments := by
    rcases builtin_or_added_of_make made found with builtin | mem
    · exact (Registry.builtin_reaches language _ builtin negated arguments).calm
    · exact added _ mem negated arguments
  setup hook found := setup hook (params_of_make made ▸ found)

theorem judgeError_calm (expectation : Expectation) (isFirst : Bool) (err : CommandError)
    (s : Session) : (judgeError expectation isFirst err s).1 ≠ .panics := by
  cases err with
  | failed text =>
    rw [judgeError]
    split <;> simp
  | skip reason =>
    rw [judgeError]
    split <;> simp
  | _ => simp [judgeError]

theorem endOf_calm {expectation : Expectation} {isFirst : Bool} {answer : Answer}
    (calm : ∀ t, answer ≠ .error .panic t) : (endOf expectation isFirst answer).1 ≠ .panics := by
  cases answer with
  | ok _ t =>
    rw [endOf]
    split <;> simp
  | error interrupt t =>
    cases interrupt with
    | error err =>
      rw [endOf]
      split
      · simp
      · exact judgeError_calm _ _ _ t
    | panic => exact absurd rfl (calm t)
    | endless => simp [endOf]

theorem dispatch_calm {c : Command}
    (calm : ∀ negated arguments, Handler.Calm (c.run negated arguments)) (inst : Instruction)
    (s : Session) : (dispatch c inst s).1 ≠ .panics := by
  rw [dispatch_eq rfl]
  exact endOf_calm fun t => calm _ _ _ t

theorem Calm.perform (calm : e.Calm) (inst : Instruction) (s : Session) :
    (e.perform inst s).1 ≠ .panics := by
  rw [Engine.perform]
  split
  · simp
  · next c found =>
    have dispatched := dispatch_calm (calm.commands inst.name c found) inst
    split
    · split
      · exact dispatched _
      · simp
    · exact dispatched _

theorem Calm.step (calm : e.Calm) (inst : Instruction) (s : Session) :
    (e.step inst s).1 ≠ .panics := by
  rw [Engine.step]
  split
  · simp
  · dsimp only
    split
    · simp
    · simp
    · exact calm.perform inst _

theorem Calm.runInstructions (calm : e.Calm) (insts : List Instruction) (s : Session) :
    (e.runInstructions insts s).1 ≠ .panics := by
  induction insts generalizing s with
  | nil => simp [Engine.runInstructions]
  | cons inst rest ih =>
    have stepped := calm.step inst s
    rw [Engine.runInstructions]
    generalize e.step inst s = ended at stepped ⊢
    obtain ⟨ending, t⟩ := ended
    cases ending with
    | goesOn => exact ih t
    | halts halt => simp
    | fails err => simp
    | panics => exact absurd rfl stepped
    | endless => simp

/-- Where no command gives up, no execution does. -/
theorem Calm.execute (calm : e.Calm) (s : Session) : (e.execute s).1 ≠ .panics := by
  rw [Engine.execute]
  split
  · exact calm.runInstructions _ s
  · next hook found =>
    split
    · exact calm.runInstructions _ _
    · simp
    · next t panics => exact absurd panics (calm.setup hook found s t)
    · simp

/-! ### Runs that give up -/

/-- The script has a limit, and when its session is set up this leads to a deadline that cannot be
represented. -/
def LimitOverflows (e : Engine) (path : Location) (start : Instant) (h : Host) : Prop :=
  (∃ script, Suite.loadScript h path = .ok script) ∧
    (∃ workDir host, e.makeSandbox h = (.ok workDir, host)) ∧
      ∃ limit, e.params.timeout = some limit ∧ start.plus? limit = none

/-- The instructions of the script come to an end, and a job that is still running then is sent a
kill at a time at which it cannot be given its grace. -/
def GraceOverflows (e : Engine) (name : String) (path : Location) (start : Instant) (h : Host) : Prop :=
  ∃ s t, e.prepare name path start h = .ok s ∧ (e.execute s).1 ≠ .endless ∧
    t = written path (e.execute s) ∧ ∃ now ∈ t.killTimes, now.plus? t.teardownGrace = none

theorem deadline?_eq_none_iff :
    e.deadline? start = none ↔
      ∃ limit, e.params.timeout = some limit ∧ start.plus? limit = none := by
  rw [deadline?]
  cases e.params.timeout with
  | none => simp
  | some limit => simp

/-- Before its session has been set up, a run gives up for the deadline alone. -/
theorem prepare_panicked_iff (e : Engine) (name : String) (path : Location) (start : Instant)
    (h : Host) :
    (∃ h', e.prepare name path start h = .error (.panicked, h')) ↔
      e.LimitOverflows path start h := by
  rw [LimitOverflows, ← deadline?_eq_none_iff, prepare]
  cases Suite.loadScript h path with
  | error err => simp
  | ok script =>
    rcases e.makeSandbox h with ⟨_ | workDir, host⟩
    · simp
    · cases e.deadline? start with
      | none => simp
      | some deadline =>
        simp only
        split <;> simp

/-- A session that is concluded breaks off if and only if its teardown does. -/
theorem conclude_panicked_iff (r : ScriptResult) :
    (conclude r s).1 = .panicked ↔ s.teardown.1 = false := by
  rw [conclude]
  generalize s.teardown = ended
  obtain ⟨_ | _, t⟩ := ended <;> simp

/-- A session whose handlers are calm gives up when it is torn down, if it does. -/
theorem runSession_panicked_iff (calm : (e.execute s).1 ≠ .panics) (r : ScriptResult) :
    (e.runSession path r s).1 = .panicked ↔
      (e.execute s).1 ≠ .endless ∧ (written path (e.execute s)).teardown.1 = false := by
  rw [runSession]
  generalize e.execute s = ended at calm ⊢
  obtain ⟨ending, t⟩ := ended
  cases ending with
  | halts halt => cases halt <;> simp [conclude_panicked_iff, written]
  | fails line err => simp [conclude_panicked_iff, written]
  | panics => exact absurd rfl calm
  | endless => simp

theorem run_panicked_iff_untimed :
    (e.run name path h).1 = .panicked ↔
      (e.runUntimed name path h.time.1 h.time.2).1 = .panicked := by
  rw [run]
  generalize h.time = time
  obtain ⟨start, h₁⟩ := time
  simp only
  generalize e.runUntimed name path start h₁ = ran
  obtain ⟨_ | _ | _, h₂⟩ := ran <;> simp

/-- A run gives up on its script if and only if the deadline of the script cannot be represented, or
that of a job which is still running when the instructions have come to their end. -/
theorem Calm.run_panicked_iff (calm : e.Calm) :
    (e.run name path h).1 = .panicked ↔
      e.LimitOverflows path h.time.1 h.time.2 ∨ e.GraceOverflows name path h.time.1 h.time.2 := by
  have unprepared := prepare_panicked_iff e name path h.time.1 h.time.2
  rw [run_panicked_iff_untimed, ← unprepared, GraceOverflows, runUntimed]
  cases prepared : e.prepare name path h.time.1 h.time.2 with
  | error ended =>
    obtain ⟨ending, h'⟩ := ended
    simp
  | ok s =>
    simp [runSession_panicked_iff (calm.execute s), Session.teardown_eq_false_iff]

/-- A run of calm handlers gives up on its script if and only if the deadline of the script cannot
be represented, or that of a job which is still running when the instructions have come to their
end. `wait` never gives up on it: a limit that ends beyond all points in time that can be
represented is no limit to what it collects. -/
theorem panics_iff_overflow {language : PatternLanguage} {params : RunParams} (name : String)
    (path : Location) (h : Host) (made : make language params = .ok e)
    (added : ∀ entry ∈ params.commands, ∀ negated arguments,
      Handler.Calm (entry.2.run negated arguments))
    (setup : ∀ hook, params.setup = some hook → Handler.Calm hook) :
    ((e.run name path h).1 = .panicked ↔
      e.LimitOverflows path h.time.1 h.time.2 ∨ e.GraceOverflows name path h.time.1 h.time.2) ∧
    (∀ negated arguments, Handler.Calm (Programs.wait negated arguments)) ∧
    ∀ (deadline : Option Instant) (timeout longer : Duration) (jobs : List Job) (host : Host),
      (∀ limit ∈ deadline, limit.Fits) → host.time.1.plus? timeout = none →
      timeout.nanoseconds ≤ longer.nanoseconds →
      (Programs.collect deadline timeout jobs host).host.clock.now.Fits →
        Programs.collect deadline longer jobs host = Programs.collect deadline timeout jobs host ∧
          (deadline = none → (Programs.collect deadline timeout jobs host).left = none) := by
  refine ⟨(calm_of_make made added setup).run_panicked_iff, fun negated arguments => ?_, ?_⟩
  · exact (Programs.wait_orderly Session.Reaches.jobTolerant negated arguments).calm
  · intro deadline timeout longer jobs host deadlineFits overflow le fits
    exact Programs.collect_unlimited deadlineFits overflow fits le

/-! ### Limits that are too large -/

/-- More than any point in time that can be represented. -/
def eternity : Duration := .ofSeconds Instant.horizon

/-- An engine that gives killed jobs all time to end. -/
def patient : Engine :=
  ⟨{ plainParams false with teardownGrace := eternity }, Registry.builtinWith noPatterns⟩

/-- A host with a single process, that ends after a second. -/
def briefHost : Host :=
  (plainHost "").lone ⟨0⟩ 0 (Host.freshState ⟨1000000000⟩ (.exit 0))

/-- The job of that process. -/
def briefJob : Job :=
  ⟨none, ["p"], .success, ⟨0, 0, 1, Host.freshState ⟨1000000000⟩ (.exit 0)⟩, none⟩

/-- The run of a script that leaves a job gives up when the job is killed, but a job is waited for
as long without harm. -/
theorem panics_iff_overflow_patient :
    (patient.run "t" plainPath lateHost).1 = .panicked ∧
      patient.GraceOverflows "t" plainPath lateHost.time.1 lateHost.time.2 ∧
      (Programs.collect none eternity [briefJob] briefHost).left = none := by
  have made : make noPatterns patient.params = .ok patient := rfl
  have panics : (patient.run "t" plainPath lateHost).1 = .panicked := by decide +kernel
  have overflow : briefHost.time.1.plus? eternity = none := by decide +kernel
  have fits : (Programs.collect none eternity [briefJob] briefHost).host.clock.now.Fits := by
    decide +kernel
  have added : ∀ entry ∈ patient.params.commands, ∀ negated arguments,
      Handler.Calm (entry.2.run negated arguments) := fun _ mem => absurd mem List.not_mem_nil
  have setup : ∀ hook, patient.params.setup = some hook → Handler.Calm hook := by
    intro hook some
    cases some
  have noDeadline : ∀ limit ∈ (none : Option Instant), limit.Fits := by
    intro limit some
    cases some
  obtain ⟨gives, -, waits⟩ := panics_iff_overflow "t" plainPath lateHost made added setup
  refine ⟨panics, ?_, (waits none eternity eternity _ _ noDeadline overflow (Nat.le_refl _) fits).2 rfl⟩
  rcases gives.mp panics with ⟨-, -, limit, some, -⟩ | grace
  · cases some
  · exact grace

/-- A configuration with the largest limit that it can set. -/
def endlessConfig : String := "timeout: 18446744073709551615\n"

/-- With that configuration the run of a script without instructions gives up, and without it the
script passes. -/
theorem panics_of_largest_limit :
    ∃ config, SuiteConfig.ofYaml endlessConfig = .ok config ∧
      ((⟨(plainParams false).withConfig config (plainHost "# nothing\n"),
        Registry.builtinWith noPatterns⟩ : Engine).run "t" plainPath
          (plainHost "# nothing\n")).1 = .panicked ∧
      (plainResult? false "# nothing\n").map ScriptResult.outcome = some .passed := by
  have ran : (SuiteConfig.ofYaml endlessConfig).toOption.map (fun config =>
      ((⟨(plainParams false).withConfig config (plainHost "# nothing\n"),
        Registry.builtinWith noPatterns⟩ : Engine).run "t" plainPath
          (plainHost "# nothing\n")).1) = some .panicked := by decide +kernel
  obtain ⟨config, found, panics⟩ := Option.map_eq_some_iff.mp ran
  exact ⟨config, eq_ok_of_toOption found, panics, by decide +kernel⟩

end Engine
end ScriptSuite
