import ScriptSuite.Proofs.Command.Jobs
import ScriptSuite.Proofs.Suite.Outcome

/-!
No job is lost, and none is counted twice.

An instruction starts a job, collects jobs, or leaves the list of jobs as it is (`JobStep`).
So whatever the instructions of a run are, each process that was started in the background is
in the list of jobs once or has been collected once (`Accounted`), and while the run goes on
the list is in the order in which the jobs were started (`jobs_accounted`).
-/

namespace ScriptSuite

open Handler Session

/-- What a job is told apart by: its process and its name. -/
def Job.key (j : Job) : ProcessId × Option String :=
  (j.number, j.name)

/-- The processes that have been started since, oldest first. -/
def Host.startedSince (h h' : Host) : List ProcessId :=
  ((h'.journal.take (h'.journal.length - h.journal.length)).filterMap fun event =>
    match event with
    | .started id => some id
    | _ => none).reverse

namespace Session

/-- The keys of the jobs of a session. -/
def keys (s : Session) : List (ProcessId × Option String) :=
  s.jobs.map Job.key

/-- The jobs are those of before, and no process has been forgotten. -/
structure SameJobs (s t : Session) : Prop where
  keys : t.keys = s.keys
  grows : s.host.Grows t.host

theorem Edits.sameJobs {s t : Session} (h : Edits s t) : SameJobs s t :=
  ⟨congrArg (List.map Job.key) h.jobs, h.grows⟩

theorem SameJobs.refl (s : Session) : SameJobs s s :=
  ⟨rfl, .refl s.host⟩

theorem SameJobs.trans {s t r : Session} (h : SameJobs s t) (h' : SameJobs t r) : SameJobs s r :=
  ⟨h'.keys.trans h.keys, h.grows.trans h'.grows⟩

end Session

namespace Programs

/-- The keys of jobs that have ended are those of the jobs when they were waited for. -/
theorem keys_endsWith {jobs : List Job} {outputs : List (Job × Output)}
    (h : List.Forall₂ EndsWith jobs outputs) :
    outputs.map (fun ended => ended.1.key) = jobs.map Job.key := by
  induction h with
  | nil => rfl
  | cons ends _ ih => rw [List.map_cons, List.map_cons, ih, ends.1]; rfl

/-- Each job is collected by `wait`, or is in the list after it. -/
theorem keys_wait (negated : Bool) (arguments : List String) (s : Session) :
    ((sessionAfter ((wait negated arguments).run s)).keys ++
      (collectedBy arguments s).map fun ended => ended.1.key).Perm s.keys := by
  rcases wait_cases negated arguments s with
    ⟨none, text, refused⟩ | ⟨jobs, others, log, taken, collected, answers⟩
  · rw [none, refused]
    exact .of_eq (List.append_nil _)
  · obtain ⟨front, split, ended⟩ := collect_parts s.deadline s.waitTimeout jobs s.host
    have whole := ((awaited?_parts taken).1.map Job.key).symm
    simp only [Session.keys, answers, (sessionAfter_answer _ others log s).1, List.map_append]
    rw [collected, keys_endsWith ended]
    rw [split, List.map_append, List.map_append] at whole
    refine .trans ?_ whole.symm
    rw [List.append_assoc]
    exact List.perm_append_comm.append_left _

/-- Jobs stay in their order unless one does not end in time. -/
theorem sublist_wait (negated : Bool) (arguments : List String) (s : Session) :
    (∃ cause t, (wait negated arguments).run s = .error (.error (.job cause)) t) ∨
      (sessionAfter ((wait negated arguments).run s)).jobs.Sublist s.jobs := by
  rcases wait_cases negated arguments s with
    ⟨-, text, refused⟩ | ⟨jobs, others, log, taken, -, answers⟩
  · rw [refused]
    exact .inr (.refl _)
  · rw [answers]
    cases more : (collect s.deadline s.waitTimeout jobs s.host).left with
    | none =>
      rw [(sessionAfter_answer _ others log s).1, Collection.survivors, more]
      exact .inr (by simpa using (awaited?_parts taken).2.1)
    | some left =>
      obtain ⟨fault, left⟩ := left
      obtain ⟨program, after, rfl⟩ := fault_of_collect more
      exact .inl ⟨_, _, by rw [Collection.answer, more]; rfl⟩

theorem wait_grows (negated : Bool) (arguments : List String) (s : Session) :
    s.host.Grows (sessionAfter ((wait negated arguments).run s)).host := by
  rcases wait_cases negated arguments s with
    ⟨-, text, refused⟩ | ⟨jobs, others, log, -, -, answers⟩
  · rw [refused]
    exact .refl s.host
  · rw [answers, (sessionAfter_answer _ others log s).2]
    exact collect_grows _ _ _ _

end Programs

namespace Engine

/-! ### What an instruction does to the jobs -/

section

variable (e : Engine) (inst : Instruction) (s : Session)

/-- The processes that an instruction starts in the background. -/
def startedBy : List ProcessId :=
  match e.call? s inst with
  | some call =>
    if inst.name = "exec" ∧ (Programs.splitMark call.arguments).2 ≠ .foreground then
      call.session.host.startedSince (e.step inst s).2.host
    else []
  | none => []

/-- The processes that an instruction collects. -/
def collectedBy : List ProcessId :=
  match e.call? s inst with
  | some call =>
    if inst.name = "wait" then
      (Programs.collectedBy call.arguments call.session).map fun ended => ended.1.number
    else []
  | none => []

end

/-- What an instruction that ends in some way does to the jobs, the processes that it starts,
and those that it collects. -/
inductive JobStep (ending : StepEnd) (s t : Session) :
    List ProcessId → List ProcessId → Prop where
  | same : SameJobs s t → JobStep ending s t [] []
  | start {id : ProcessId} {name : Option String} : t.keys = s.keys ++ [(id, name)] →
      s.host.processes.length ≤ id → id < t.host.processes.length →
      (∀ text, name = some text → text ∉ s.jobs.filterMap Job.name) →
      JobStep ending s t [id] []
  /-- The jobs that stay do so in their order unless the run ends. -/
  | collect {keys : List (ProcessId × Option String)} : (t.keys ++ keys).Perm s.keys →
      s.host.Grows t.host → (ending = .goesOn → t.keys.Sublist s.keys) →
      JobStep ending s t [] (keys.map Prod.fst)

/-- Jobs are started by `exec` and collected by `wait`, and no other command does either. -/
structure Jobwise (e : Engine) : Prop where
  exec : ∀ c, e.registry.command? "exec" = some c → c.run = Programs.exec
  wait : ∀ c, e.registry.command? "wait" = some c → c.run = Programs.wait
  others : ∀ name c, e.registry.command? name = some c → name ≠ "exec" → name ≠ "wait" →
    ∀ negated arguments, Handler.Keeps SameJobs (c.run negated arguments)

/-- What the instructions of a run come to one after another, up to the first that ends it. -/
def along (e : Engine) (f : Instruction → Session → List ProcessId) :
    List Instruction → Session → List ProcessId
  | [], _ => []
  | inst :: rest, s =>
    f inst s ++
      match e.step inst s with
      | (.goesOn, t) => along e f rest t
      | _ => []

/-- The run gets through all of these instructions, from the session `s` to `t`. -/
inductive Passes (e : Engine) : List Instruction → Session → Session → Prop where
  | nil {s : Session} : Passes e [] s s
  | cons {inst : Instruction} {rest : List Instruction} {s t u : Session} :
      e.step inst s = (.goesOn, t) → Passes e rest t u → Passes e (inst :: rest) s u

/-- Each process that was started in the background is in the list of jobs once or has been
collected once. -/
structure Accounted (s : Session) (started collected : List ProcessId) : Prop where
  parts : (s.jobs.map Job.number ++ collected).Perm started
  distinct : started.Nodup
  known : ∀ id ∈ started, id < s.host.processes.length
  names : (s.jobs.filterMap Job.name).Nodup

section

variable {e : Engine} {s t : Session} {inst : Instruction} {insts : List Instruction}
  {started collected started' collected' : List ProcessId} {ending : StepEnd}

theorem numbers_eq (s : Session) : s.jobs.map Job.number = s.keys.map Prod.fst := by
  rw [Session.keys, List.map_map]
  rfl

theorem names_eq (s : Session) : s.jobs.filterMap Job.name = s.keys.filterMap Prod.snd := by
  rw [Session.keys, List.filterMap_map]
  rfl

namespace JobStep

theorem of_same {u : Session} (same : SameJobs s u)
    (h : JobStep ending u t started collected) : JobStep ending s t started collected := by
  cases h with
  | same same' => exact .same (same.trans same')
  | start keys fresh new free =>
    rw [names_eq, same.keys, ← names_eq] at free
    exact .start (same.keys ▸ keys) (Nat.le_trans same.grows fresh) new free
  | collect parts grows ordered =>
    exact .collect (same.keys ▸ parts) (same.grows.trans grows) (same.keys ▸ ordered)

theorem then_same {u : Session} (h : JobStep ending s u started collected)
    (same : SameJobs u t) : JobStep ending s t started collected := by
  cases h with
  | same same' => exact .same (same'.trans same)
  | start keys fresh new free =>
    exact .start (same.keys ▸ keys) fresh (Nat.lt_of_lt_of_le new same.grows) free
  | collect parts grows ordered =>
    exact .collect (same.keys ▸ parts) (grows.trans same.grows) (same.keys ▸ ordered)

end JobStep

/-! ### What a step preserves -/

/-- A step keeps the account: what it starts and what it collects is added to the books. -/
theorem Accounted.jobStep (h : Accounted s started collected)
    (change : JobStep ending s t started' collected') :
    Accounted t (started ++ started') (collected ++ collected') := by
  obtain ⟨parts, distinct, known, names⟩ := h
  rw [numbers_eq] at parts
  rw [names_eq] at names
  cases change with
  | same same =>
    rw [List.append_nil, List.append_nil]
    refine ⟨?_, distinct, fun id mem => Nat.lt_of_lt_of_le (known id mem) same.grows, ?_⟩
    · rwa [numbers_eq, same.keys]
    · rwa [names_eq, same.keys]
  | @start id name keys fresh new free =>
    rw [List.append_nil]
    refine ⟨?_, ?_, ?_, ?_⟩
    · rw [numbers_eq, keys, List.map_append, List.append_assoc]
      refine .trans (List.perm_append_comm.append_left _) ?_
      rw [← List.append_assoc]
      exact parts.append_right _
    · refine List.nodup_append.mpr ⟨distinct, List.nodup_singleton id, ?_⟩
      intro a mem b single
      rw [List.mem_singleton.mp single]
      exact Nat.ne_of_lt (Nat.lt_of_lt_of_le (known a mem) fresh)
    · intro a mem
      rcases List.mem_append.mp mem with old | single
      · exact Nat.lt_trans (Nat.lt_of_lt_of_le (known a old) fresh) new
      · exact List.mem_singleton.mp single ▸ new
    · rw [names_eq, keys, List.filterMap_append]
      cases name with
      | none => simpa using names
      | some text =>
        refine List.nodup_append.mpr ⟨names, List.nodup_singleton text, ?_⟩
        intro a mem b single
        rw [List.mem_singleton.mp single]
        rintro rfl
        exact free a rfl (names_eq s ▸ mem)
  | @collect keys parts' grows _ =>
    rw [List.append_nil]
    refine ⟨?_, distinct, fun id mem => Nat.lt_of_lt_of_le (known id mem) grows, ?_⟩
    · have numbers := parts'.map Prod.fst
      rw [List.map_append] at numbers
      rw [numbers_eq]
      refine .trans ?_ ((numbers.append_right collected).trans parts)
      rw [List.append_assoc]
      exact List.perm_append_comm.append_left _
    · have all := parts'.filterMap Prod.snd
      rw [List.filterMap_append] at all
      rw [names_eq]
      exact (List.nodup_append.mp (all.nodup_iff.mpr names)).1

/-- After a step that goes on the jobs are listed in the order in which they were started. -/
theorem ordered_jobStep (h : (s.jobs.map Job.number).Sublist started)
    (change : JobStep .goesOn s t started' collected') :
    (t.jobs.map Job.number).Sublist (started ++ started') := by
  rw [numbers_eq] at h ⊢
  cases change with
  | same same => rwa [same.keys, List.append_nil]
  | start keys _ _ _ =>
    rw [keys, List.map_append]
    exact h.append (.refl _)
  | collect _ _ ordered =>
    rw [List.append_nil]
    exact ((ordered rfl).map Prod.fst).trans h

/-! ### What an instruction does -/

theorem startedSince_of_eq {h h' : Host} (same : h'.journal = h.journal) :
    h.startedSince h' = [] := by
  simp [Host.startedSince, same]

theorem startedSince_of_started {h h' : Host} {id : ProcessId}
    (journal : h'.journal = .started id :: h.journal) : h.startedSince h' = [id] := by
  simp [Host.startedSince, journal]

/-- A handler is called with the jobs that there were. -/
theorem sameJobs_of_call {call : Call} (called : e.call? s inst = some call) :
    SameJobs s call.session := by
  obtain ⟨u, edits, session⟩ := edits_of_call called
  exact edits.sameJobs.trans (session ▸ ⟨rfl, .refl u.host⟩)

/-- What `exec` does to the jobs. -/
theorem jobStep_exec (ending : StepEnd) (negated : Bool) (arguments : List String) (u : Session) :
    JobStep ending u (sessionAfter ((Programs.exec negated arguments).run u))
      (if (Programs.splitMark arguments).2 ≠ .foreground then
        u.host.startedSince (sessionAfter ((Programs.exec negated arguments).run u)).host
      else []) [] := by
  cases split : Programs.splitMark arguments with
  | mk line ground =>
    cases ground with
    | foreground =>
      rw [if_neg (by simp)]
      exact .same (Programs.exec_foreground_keeps split negated u).after.sameJobs
    | background name =>
      rw [if_pos (by simp)]
      rcases Programs.exec_background_cases split negated u with
        ⟨t, job, started, starts, named⟩ | ⟨interrupt, t, refused, jobs, host⟩
      · rw [started]
        simp only [sessionAfter]
        rw [startedSince_of_started starts.journal]
        have keys : t.keys = u.keys ++ [(job.number, job.name)] := by
          rw [Session.keys, starts.jobs, List.map_append]
          rfl
        refine .start keys (Nat.le_of_eq starts.new.symm) ?_ ?_
        · rw [starts.processes, starts.new]
          exact Nat.lt_succ_self _
        · intro text same mem
          obtain ⟨other, memOther, sameOther⟩ := List.mem_filterMap.mp mem
          have free := starts.name text same
          rw [Programs.hasJob, List.any_eq_false] at free
          exact free other memOther (beq_iff_eq.mpr sameOther)
      · rw [refused]
        simp only [sessionAfter]
        rw [startedSince_of_eq (congrArg Host.journal host)]
        exact .same ⟨congrArg (List.map Job.key) jobs, .of_eq (congrArg Host.processes host)⟩

/-- What `wait` does to the jobs. -/
theorem jobStep_wait (ending : StepEnd) (negated : Bool) (arguments : List String) (u : Session)
    (ends : ∀ cause t, (Programs.wait negated arguments).run u = .error (.error (.job cause)) t →
      ending ≠ .goesOn) :
    JobStep ending u (sessionAfter ((Programs.wait negated arguments).run u)) []
      ((Programs.collectedBy arguments u).map fun ended => ended.1.number) := by
  have numbers : (Programs.collectedBy arguments u).map (fun ended => ended.1.number) =
      ((Programs.collectedBy arguments u).map fun ended => ended.1.key).map Prod.fst := by
    rw [List.map_map]
    rfl
  rw [numbers]
  refine .collect (Programs.keys_wait negated arguments u)
    (Programs.wait_grows negated arguments u) fun goesOn => ?_
  rcases Programs.sublist_wait negated arguments u with ⟨cause, t, timedOut⟩ | sublist
  · exact absurd goesOn (ends cause t timedOut)
  · exact sublist.map Job.key

/-- A fault of a job ends the run, whatever the instruction expects. -/
theorem endOf_job (expectation : Expectation) (isFirst : Bool) (cause : JobError) (t : Session) :
    (endOf expectation isFirst (.error (.error (.job cause)) t)).1 ≠ .goesOn := by
  rw [endOf]
  split <;> exact StepEnd.noConfusion

/-- An instruction starts a job, collects jobs, or leaves them as they are. -/
theorem jobStep_of_step (jobwise : e.Jobwise) (inst : Instruction) (s : Session) :
    JobStep (e.step inst s).1 s (e.step inst s).2 (e.startedBy inst s) (e.collectedBy inst s) := by
  cases called : e.call? s inst with
  | none =>
    simp only [startedBy, collectedBy, called]
    exact .same (edits_of_no_call called).sameJobs
  | some call =>
    have found := command_of_call called
    have ended := step_of_call called
    have host : (e.step inst s).2.host = (sessionAfter (call.answer inst)).host := by
      obtain ⟨log, eq⟩ := endOf_log inst.expectation (!s.hasStarted) (call.answer inst)
      rw [ended, eq]
    simp only [startedBy, collectedBy, called, host]
    refine .of_same (sameJobs_of_call called) (.then_same ?_ (ended ▸ endOf_edits _ _ _).sameJobs)
    by_cases isExec : inst.name = "exec"
    · have runs := jobwise.exec call.command (isExec ▸ found)
      simp only [isExec, true_and, Call.answer, runs]
      exact jobStep_exec _ _ _ _
    · by_cases isWait : inst.name = "wait"
      · have runs := jobwise.wait call.command (isWait ▸ found)
        simp only [isWait, if_true, Call.answer, runs]
        refine jobStep_wait _ _ _ _ fun cause t timedOut goesOn => ?_
        rw [ended, Call.answer, runs, timedOut] at goesOn
        exact endOf_job _ _ cause t goesOn
      · simp only [isExec, isWait, false_and, if_false]
        exact .same (jobwise.others _ _ found isExec isWait _ _ _).after

/-! ### What a run preserves -/

/-- All jobs are accounted for after instructions, however they end. -/
theorem Accounted.runInstructions (jobwise : e.Jobwise) (h : Accounted s started collected)
    (insts : List Instruction) :
    Accounted (e.runInstructions insts s).2 (started ++ e.along e.startedBy insts s)
      (collected ++ e.along e.collectedBy insts s) := by
  induction insts generalizing s started collected with
  | nil =>
    rw [along, along, List.append_nil, List.append_nil]
    exact h
  | cons inst rest ih =>
    have stepped := h.jobStep (jobStep_of_step jobwise inst s)
    rw [Engine.runInstructions, along, along]
    cases ended : e.step inst s with
    | mk ending t =>
      rw [ended] at stepped
      cases ending with
      | goesOn =>
        rw [← List.append_assoc, ← List.append_assoc]
        exact ih stepped
      | halts halt => simpa using stepped
      | fails err => simpa using stepped
      | panics => simpa using stepped
      | endless => simpa using stepped

/-- While the run goes on, the jobs are in the order in which they were started. -/
theorem Passes.ordered (jobwise : e.Jobwise) (passes : e.Passes insts s t)
    (h : (s.jobs.map Job.number).Sublist started) :
    (t.jobs.map Job.number).Sublist (started ++ e.along e.startedBy insts s) := by
  induction passes generalizing started with
  | nil => rwa [along, List.append_nil]
  | @cons inst rest s u t goesOn _ ih =>
    have change := jobStep_of_step jobwise inst s
    rw [goesOn] at change
    rw [along, goesOn, ← List.append_assoc]
    exact ih (ordered_jobStep h change)

/-- Instructions that the run gets through are run in order. -/
theorem Passes.runInstructions (passes : e.Passes insts s t) :
    e.runInstructions insts s = (.halts .completed, t) := by
  induction passes with
  | nil => rfl
  | cons goesOn _ ih =>
    rw [Engine.runInstructions, goesOn]
    exact ih

/-! ### Engines -/

theorem jobwise_of_make {language : PatternLanguage} {params : RunParams}
    (made : make language params = .ok e)
    (added : ∀ entry ∈ params.commands, ∀ negated arguments,
      Handler.Keeps SameJobs (entry.2.run negated arguments)) : e.Jobwise := by
  have exec : e.registry.command? "exec" = some ⟨true, Programs.exec⟩ := command?_of_make made rfl
  have wait : e.registry.command? "wait" = some ⟨false, Programs.wait⟩ := command?_of_make made rfl
  constructor
  · intro c found
    cases exec.symm.trans found
    rfl
  · intro c found
    cases wait.symm.trans found
    rfl
  · intro name c found notExec notWait
    rcases builtin_or_added_of_make made found with builtin | mem
    · exact fun negated arguments =>
        (Registry.builtin_edits language _ builtin notExec notWait negated arguments).mono
          Edits.sameJobs
    · exact added _ mem

theorem Accounted.empty (none : s.jobs = []) : Accounted s [] [] :=
  ⟨by simp [none], .nil, by simp, by simp [none]⟩

theorem Ready.sameJobs (ready : e.Ready s t)
    (setup : ∀ hook, e.params.setup = some hook → Handler.Keeps SameJobs hook) : SameJobs s t :=
  ready.keeps SameJobs.refl setup

/-- Whatever the instructions of a script are and however they end, each process that they
start in the background is in the list of jobs once or has been collected by one of them once,
between two instructions as well as at the end, and no two jobs have one name. Between two
instructions the list is in the order in which the jobs were started. -/
theorem jobs_accounted {language : PatternLanguage} {params : RunParams} {name : String}
    {path : Location} {start : Instant} {h : Host}
    (made : make language params = .ok e)
    (commands : ∀ entry ∈ params.commands, ∀ negated arguments,
      Handler.Keeps SameJobs (entry.2.run negated arguments))
    (setup : ∀ hook, params.setup = some hook → Handler.Keeps SameJobs hook)
    (prepared : e.prepare name path start h = .ok s) (ready : e.Ready s t) :
    (∀ before after u, t.script.instructions = before ++ after → e.Passes before t u →
      Accounted u (e.along e.startedBy before t) (e.along e.collectedBy before t) ∧
        (u.jobs.map Job.number).Sublist (e.along e.startedBy before t)) ∧
    Accounted (e.execute s).2 (e.along e.startedBy t.script.instructions t)
      (e.along e.collectedBy t.script.instructions t) := by
  have jobwise := jobwise_of_make made commands
  rw [← params_of_make made] at setup
  have none : t.jobs = [] := by
    obtain ⟨script, deadline, workDir, scratch, host, -, -, rfl⟩ := prepare_eq_ok prepared
    exact List.map_eq_nil_iff.mp (ready.sameJobs setup).keys
  have empty : Accounted t [] [] := .empty none
  refine ⟨fun before after u _ passes => ⟨?_, ?_⟩, ?_⟩
  · have all := empty.runInstructions jobwise before
    rwa [passes.runInstructions] at all
  · have ordered : (t.jobs.map Job.number).Sublist [] := by
      rw [none]
      exact .refl _
    exact passes.ordered jobwise ordered
  · rw [ready.runs]
    exact empty.runInstructions jobwise _

/-! ### A script that waits in vain -/

/-- A host with a program that writes its arguments and fails if there are any, and that never
ends if there are two. -/
def programHost (source : String) : Host :=
  { Session.hostOf (.file ['t', '.', 't', 'x', 't'] ⟨Text.bytesOf source, 0o644, false⟩
      (.folder ['t', 'm', 'p'] 0o755 .empty
        (.folder ['b', 'i', 'n'] 0o755 (.file ['p'] ⟨Node.nativeMark, 0o755, false⟩ .empty)
          .empty))) with
    load := fun i => .ok <|
      if i.arguments.length = 3 then .idle
      else .write .stdout (Text.bytesOf (" ".intercalate i.arguments.tail))
        (.exit (i.arguments.length - 1)) }

/-- An engine that does not wait for long. -/
def hasty : Engine :=
  ⟨{ plainParams false with waitTimeout := .ofMilliseconds 20 }, Registry.builtinWith noPatterns⟩

/-- The session that a script is run in on such a host, if it can be prepared. -/
def hastySession? (source : String) : Option Session :=
  (hasty.prepare "t" plainPath (programHost source).time.1 (programHost source).time.2).toOption

/-- The second of three jobs does not end, so that `wait` collects the first alone. -/
def vainSource : String := "exec p &a&\nexec p x y &b&\n! exec p &\nwait\n"

theorem jobs_accounted_vain :
    ∃ s, hastySession? vainSource = some s ∧
      Accounted (hasty.execute s).2 [0, 1, 2] [0] ∧
      (hasty.execute s).2.jobs.map Job.number = [1, 2] := by
  have ran : (hastySession? vainSource).map (fun s =>
      (hasty.along hasty.startedBy s.script.instructions s,
        hasty.along hasty.collectedBy s.script.instructions s,
        (hasty.execute s).2.jobs.map Job.number)) = some ([0, 1, 2], [0], [1, 2]) := by
    decide +kernel
  obtain ⟨s, session, results⟩ := Option.map_eq_some_iff.mp ran
  simp only [Prod.mk.injEq] at results
  obtain ⟨started, collected, jobs⟩ := results
  have made : make noPatterns hasty.params = .ok hasty := rfl
  have prepared : hasty.prepare "t" plainPath (programHost vainSource).time.1
      (programHost vainSource).time.2 = .ok s := eq_ok_of_toOption session
  have accounted := (jobs_accounted made (fun _ mem => absurd mem List.not_mem_nil)
    (fun _ found => by cases found) prepared rfl).2
  rw [started, collected] at accounted
  exact ⟨s, session, accounted, jobs⟩

end

end Engine

end ScriptSuite
