import ScriptSuite.Proofs.Command.Streams
import ScriptSuite.Proofs.Suite.Launching

/-!
Whose outputs a session keeps, and who gets its input.

An instruction may leave outputs that are kept (`Hears`), and it may replace the input for the next
program or use it up (`Exchanges`). What one instruction does to the streams is told by these alone
(`streamed_step`). So between any two instructions of a run the outputs are those that were left
last, and the input is there if it has been replaced since a program was launched
(`streams_latest`).
-/

namespace ScriptSuite

open Handler Session

namespace Engine

/-! ### The course of a run -/

/-- The instructions that a run comes to, up to the first that ends it, each with the session that
it is run in. -/
def course (e : Engine) : List Instruction → Session → List (Instruction × Session)
  | [], _ => []
  | inst :: rest, s =>
    (inst, s) ::
      match e.step inst s with
      | (.goesOn, t) => course e rest t
      | _ => []

/-- The value that has been given last in the course of a run, or else the first one. -/
inductive Latest {β : Type} (Gives : Instruction → Session → β → Prop) (first : β) :
    List (Instruction × Session) → β → Prop where
  | none {past : List (Instruction × Session)} :
      (∀ turn ∈ past, ∀ b, ¬ Gives turn.1 turn.2 b) → Latest Gives first past first
  | last {before after : List (Instruction × Session)} {inst : Instruction} {s : Session} {b : β} :
      Gives inst s b → (∀ turn ∈ after, ∀ c, ¬ Gives turn.1 turn.2 c) →
      Latest Gives first (before ++ (inst, s) :: after) b

namespace Latest

variable {β : Type} {Gives : Instruction → Session → β → Prop} {first b c : β}
  {past more : List (Instruction × Session)} {inst : Instruction} {s : Session}

/-- An instruction gives a value, or leaves the one that there was. -/
theorem single (given : (∃ b, Gives inst s b ∧ c = b) ∨ (∀ b, ¬ Gives inst s b) ∧ c = first) :
    Latest Gives first [(inst, s)] c := by
  rcases given with ⟨b, gives, rfl⟩ | ⟨silent, rfl⟩
  · rw [← List.nil_append [(inst, s)]]
    exact .last gives fun _ mem => absurd mem List.not_mem_nil
  · apply Latest.none
    intro turn mem
    rw [List.mem_singleton.mp mem]
    exact silent

/-- What has been given last stays so until something else is given. -/
theorem append (h : Latest Gives first past b) (h' : Latest Gives b more c) :
    Latest Gives first (past ++ more) c := by
  -- what was given before only counts if nothing is given later
  cases h' with
  | last gives silent =>
    rw [← List.append_assoc]
    exact .last gives silent
  | none silent =>
    cases h with
    | none silent' =>
      apply Latest.none
      intro turn mem
      rcases List.mem_append.mp mem with early | late
      · exact silent' turn early
      · exact silent turn late
    | last gives silent' =>
      rw [List.append_assoc, List.cons_append]
      apply Latest.last gives
      intro turn mem
      rcases List.mem_append.mp mem with early | late
      · exact silent' turn early
      · exact silent turn late

end Latest

/-! ### What an instruction does to the streams -/

/-- The instruction leaves outputs that are kept: those of a program that `exec` runs in the
foreground to its end, or those of all jobs that `wait` waits for, one after another. -/
inductive Hears (e : Engine) (inst : Instruction) (s : Session) : String × String → Prop where
  | exec {output : Output} : inst.name = "exec" → e.RunsForeground inst s output →
      Hears e inst s (output.stdout, output.stderr)
  | wait {call : Call} {collected : List (Job × Output)} : inst.name = "wait" →
      e.call? s inst = some call → Programs.Collects call.arguments call.session collected →
      Hears e inst s (Programs.joined collected)

/-- The instruction decides on the input of the next program: `stdin` puts one in its place, and
`exec` uses it up for the program that it launches. -/
inductive Exchanges (e : Engine) (inst : Instruction) (s : Session) : Option Bytes → Prop where
  | fed {call : Call} {data : Bytes} : inst.name = "stdin" → e.call? s inst = some call →
      Programs.Payload call.session call.arguments data → Exchanges e inst s (some data)
  | launched {l : Launch} {ground : Programs.Ground} : inst.name = "exec" →
      e.Launches inst s l ground → Exchanges e inst s none

/-- `exec`, `stdin` and `wait` are the built-in commands, and no other command touches the
streams. -/
structure Streamwise (e : Engine) : Prop where
  exec : ∀ c, e.registry.command? "exec" = some c → c.run = Programs.exec
  stdin : ∀ c, e.registry.command? "stdin" = some c → c.run = Programs.stdin
  wait : ∀ c, e.registry.command? "wait" = some c → c.run = Programs.wait
  others : ∀ name c, e.registry.command? name = some c →
    name ≠ "exec" → name ≠ "stdin" → name ≠ "wait" →
    ∀ negated arguments, Handler.Keeps SameStreams (c.run negated arguments)

/-- The streams of a session are told by those of an earlier one and what has been run since. -/
structure Streamed (e : Engine) (past : List (Instruction × Session)) (s t : Session) : Prop where
  outputs : Latest e.Hears s.outputs past t.outputs
  input : Latest e.Exchanges s.stdin past t.stdin

section

variable {e : Engine} {s t u : Session} {inst : Instruction} {call : Call}
  {past more : List (Instruction × Session)} {l : Launch} {ground : Programs.Ground}

theorem Streamed.refl (e : Engine) (s : Session) : e.Streamed [] s s where
  outputs := .none fun _ mem => absurd mem List.not_mem_nil
  input := .none fun _ mem => absurd mem List.not_mem_nil

theorem Streamed.append (h : e.Streamed past s t) (h' : e.Streamed more t u) :
    e.Streamed (past ++ more) s u :=
  ⟨h.outputs.append h'.outputs, h.input.append h'.input⟩

theorem exits_of_runsForeground (called : e.call? s inst = some call) {output : Output}
    (runs : e.RunsForeground inst s output) :
    Programs.Exits call.arguments call.session output := by
  obtain ⟨call', line, h, called', -, split, ne, ran⟩ := runs
  cases called.symm.trans called'
  exact ⟨line, h, split, ne, ran⟩

/-- A handler that is called is one of the three that touch the streams, or leaves them as they
are. -/
theorem Streamwise.cases (streamwise : e.Streamwise) (called : e.call? s inst = some call) :
    inst.name = "exec" ∧ call.command.run = Programs.exec ∨
    inst.name = "stdin" ∧ call.command.run = Programs.stdin ∨
    inst.name = "wait" ∧ call.command.run = Programs.wait ∨
    inst.name ≠ "exec" ∧ inst.name ≠ "stdin" ∧ inst.name ≠ "wait" ∧
      SameStreams call.session (sessionAfter (call.answer inst)) := by
  have found := command_of_call called
  by_cases isExec : inst.name = "exec"
  · exact .inl ⟨isExec, streamwise.exec _ (isExec ▸ found)⟩
  by_cases isStdin : inst.name = "stdin"
  · exact .inr (.inl ⟨isStdin, streamwise.stdin _ (isStdin ▸ found)⟩)
  by_cases isWait : inst.name = "wait"
  · exact .inr (.inr (.inl ⟨isWait, streamwise.wait _ (isWait ▸ found)⟩))
  have same := (streamwise.others _ _ found isExec isStdin isWait inst.expectation.isNegated
    call.arguments call.session).after
  exact .inr (.inr (.inr ⟨isExec, isStdin, isWait, same⟩))

/-- The outputs that a handler leaves, if its command is `exec` or `wait`, and otherwise those that
there were. -/
theorem hears_of_answer (streamwise : e.Streamwise) (called : e.call? s inst = some call) :
    let t := sessionAfter (call.answer inst)
    (∃ b, e.Hears inst s b ∧ t.outputs = b) ∨
      (∀ b, ¬ e.Hears inst s b) ∧ t.outputs = call.session.outputs := by
  rcases streamwise.cases called with
    ⟨named, runs⟩ | ⟨named, runs⟩ | ⟨named, runs⟩ | ⟨notExec, -, notWait, same⟩
  · rw [Call.answer, runs]
    rcases Programs.exec_outputs inst.expectation.isNegated call.arguments call.session with
      ⟨output, ⟨line, h, split, ne, ran⟩, kept⟩ | ⟨silent, kept⟩
    · exact .inl ⟨_, .exec named ⟨call, line, h, called, runs, split, ne, ran⟩, kept⟩
    · refine .inr ⟨?_, kept⟩
      rintro b (⟨-, exits⟩ | ⟨isWait, -⟩)
      · exact silent _ (exits_of_runsForeground called exits)
      · exact absurd (named.symm.trans isWait) (by decide)
  · rw [Call.answer, runs]
    refine .inr ⟨?_, Programs.stdin_outputs _ _ _⟩
    rintro b (⟨isExec, -⟩ | ⟨isWait, -⟩)
    · exact absurd (named.symm.trans isExec) (by decide)
    · exact absurd (named.symm.trans isWait) (by decide)
  · rw [Call.answer, runs]
    rcases (Programs.wait_streams inst.expectation.isNegated call.arguments call.session).2 with
      ⟨collected, collects, kept⟩ | ⟨silent, kept⟩
    · exact .inl ⟨_, .wait named called collects, kept⟩
    · refine .inr ⟨?_, kept⟩
      rintro b (⟨isExec, -⟩ | ⟨-, called', collects⟩)
      · exact absurd (named.symm.trans isExec) (by decide)
      · cases called.symm.trans called'
        exact silent _ collects
  · refine .inr ⟨?_, same.outputs⟩
    rintro b (⟨isExec, -⟩ | ⟨isWait, -⟩)
    · exact notExec isExec
    · exact notWait isWait

/-- The input that a handler leaves, if its command is `stdin` or launches a program, and otherwise
the one that there was. -/
theorem exchanges_of_answer (streamwise : e.Streamwise) (called : e.call? s inst = some call) :
    let t := sessionAfter (call.answer inst)
    (∃ b, e.Exchanges inst s b ∧ t.stdin = b) ∨
      (∀ b, ¬ e.Exchanges inst s b) ∧ t.stdin = call.session.stdin := by
  rcases streamwise.cases called with
    ⟨named, runs⟩ | ⟨named, runs⟩ | ⟨named, runs⟩ | ⟨notExec, notStdin, -, same⟩
  · rw [Call.answer, runs]
    cases split : Programs.splitMark call.arguments with
    | mk line ground =>
      by_cases empty : line = []
      · rw [Programs.exec_unused (empty ▸ split)]
        refine .inr ⟨?_, rfl⟩
        rintro b (⟨isStdin, -⟩ | ⟨-, call', line', called', -, split', ne, -⟩)
        · exact absurd (named.symm.trans isStdin) (by decide)
        · cases called.symm.trans called'
          cases split.symm.trans split'
          exact ne empty
      · obtain ⟨used, -⟩ := Programs.exec_streams split empty inst.expectation.isNegated
        exact .inl ⟨none, .launched named ⟨call, line, called, runs, split, empty, rfl⟩, used⟩
  · rw [Call.answer, runs]
    rcases Programs.stdin_cases inst.expectation.isNegated call.arguments call.session with
      ⟨data, payload, fed⟩ | ⟨silent, interrupt, failed⟩
    · rw [fed]
      exact .inl ⟨some data, .fed named called payload, rfl⟩
    · rw [failed]
      refine .inr ⟨?_, rfl⟩
      rintro b (⟨-, called', payload⟩ | ⟨isExec, -⟩)
      · cases called.symm.trans called'
        exact silent _ payload
      · exact absurd (named.symm.trans isExec) (by decide)
  · rw [Call.answer, runs]
    refine .inr ⟨?_, (Programs.wait_streams _ _ _).1⟩
    rintro b (⟨isStdin, -⟩ | ⟨isExec, -⟩)
    · exact absurd (named.symm.trans isStdin) (by decide)
    · exact absurd (named.symm.trans isExec) (by decide)
  · refine .inr ⟨?_, same.stdin⟩
    rintro b (⟨isStdin, -⟩ | ⟨isExec, -⟩)
    · exact notStdin isStdin
    · exact notExec isExec

/-- A handler is called with the streams that there were. -/
theorem sameStreams_of_call (called : e.call? s inst = some call) :
    SameStreams s call.session := by
  obtain ⟨log, n, session⟩ := session_of_call called
  rw [session, isOverdue_host]
  exact ⟨rfl, rfl⟩

/-- What one instruction does to the streams. -/
theorem streamed_step (streamwise : e.Streamwise) (inst : Instruction) (s : Session) :
    e.Streamed [(inst, s)] s (e.step inst s).2 := by
  cases called : e.call? s inst with
  | none =>
    obtain ⟨log, same⟩ := step_of_no_call called
    rw [same, isOverdue_host]
    constructor
    · refine .single (.inr ⟨?_, rfl⟩)
      rintro b (⟨-, call, line, h, called', -⟩ | ⟨-, called', -⟩)
      · cases called.symm.trans called'
      · cases called.symm.trans called'
    · refine .single (.inr ⟨?_, rfl⟩)
      rintro b (⟨-, called', -⟩ | ⟨-, call, line, called', -⟩)
      · cases called.symm.trans called'
      · cases called.symm.trans called'
  | some call =>
    obtain ⟨outputs, stdin⟩ := sameStreams_of_call called
    obtain ⟨log, same⟩ := endOf_log inst.expectation (!s.hasStarted) (call.answer inst)
    have left : SameStreams (sessionAfter (call.answer inst)) (e.step inst s).2 := by
      rw [step_of_call called, same]
      exact ⟨rfl, rfl⟩
    constructor
    · rw [left.outputs, ← outputs]
      exact .single (hears_of_answer streamwise called)
    · rw [left.stdin, ← stdin]
      exact .single (exchanges_of_answer streamwise called)

/-! ### What a run does to the streams -/

/-- However instructions end, the streams are told by what has been run. -/
theorem streamed_runInstructions (streamwise : e.Streamwise) (insts : List Instruction)
    (s : Session) : e.Streamed (e.course insts s) s (e.runInstructions insts s).2 := by
  -- the course ends with the instruction that ends the run, and what that one does counts, too
  induction insts generalizing s with
  | nil => exact .refl e s
  | cons inst rest ih =>
    have stepped := streamed_step streamwise inst s
    rw [runInstructions, course, ← List.singleton_append]
    cases ended : e.step inst s with
    | mk ending t =>
      rw [ended] at stepped
      cases ending with
      | goesOn => exact stepped.append (ih t)
      | halts halt => exact stepped
      | fails err => exact stepped
      | panics => exact stepped
      | endless => exact stepped

/-- A program gets the input that there is, and the host does nothing but run it. -/
theorem stdin_of_launches (launches : e.Launches inst s l ground) :
    l.stdin = s.stdin.getD [] ∧
      (e.step inst s).2.host = Programs.hostAfter ground l (isOverdue s).2 := by
  obtain ⟨call, line, called, isExec, split, ne, rfl⟩ := launches
  obtain ⟨log, n, session⟩ := session_of_call called
  obtain ⟨log', same⟩ := endOf_log inst.expectation (!s.hasStarted) (call.answer inst)
  have host : (e.step inst s).2.host =
      Programs.hostAfter ground (Programs.launchOf call.session line) call.session := by
    rw [step_of_call called, same, Call.answer, isExec]
    exact (Programs.exec_streams split ne _).2.1
  constructor
  · rw [← (sameStreams_of_call called).stdin]
    rfl
  · rw [host]
    generalize Programs.launchOf call.session line = l
    rw [session]
    cases ground <;> rfl

/-! ### Engines -/

theorem streamwise_of_make {language : PatternLanguage} {params : RunParams}
    (made : make language params = .ok e)
    (added : ∀ entry ∈ params.commands, ∀ negated arguments,
      Handler.Keeps SameStreams (entry.2.run negated arguments)) : e.Streamwise := by
  have exec : e.registry.command? "exec" = some ⟨true, Programs.exec⟩ := command?_of_make made rfl
  have stdin : e.registry.command? "stdin" = some ⟨false, Programs.stdin⟩ :=
    command?_of_make made rfl
  have wait : e.registry.command? "wait" = some ⟨false, Programs.wait⟩ := command?_of_make made rfl
  constructor
  · intro c found
    cases exec.symm.trans found
    rfl
  · intro c found
    cases stdin.symm.trans found
    rfl
  · intro c found
    cases wait.symm.trans found
    rfl
  · intro name c found notExec notStdin notWait
    rcases builtin_or_added_of_make made found with builtin | mem
    · exact Registry.builtin_sameStreams language _ builtin notExec notStdin notWait
    · exact added _ mem

/-- Whatever instructions are run and however they end, the outputs that a session keeps are those
that were left last: by a program in the foreground that ended, or by a `wait` that collected all
jobs it waited for. The input is that of the last `stdin` if no program has been launched since. A
program that is launched gets the input and uses it up. -/
theorem streams_latest {language : PatternLanguage} {params : RunParams} {name : String}
    {path : Location} {start : Instant} {h : Host}
    (made : make language params = .ok e)
    (commands : ∀ entry ∈ params.commands, ∀ negated arguments,
      Handler.Keeps SameStreams (entry.2.run negated arguments))
    (setup : ∀ hook, params.setup = some hook → Handler.Keeps SameStreams hook)
    (prepared : e.prepare name path start h = .ok s) (ready : e.Ready s t) :
    (∀ insts u, e.Passes insts t u →
      Latest e.Hears ("", "") (e.course insts t) u.outputs ∧
      Latest e.Exchanges none (e.course insts t) u.stdin ∧
      ∀ inst l ground, e.Launches inst u l ground →
        l.stdin = u.stdin.getD [] ∧
          (e.step inst u).2.host = Programs.hostAfter ground l (isOverdue u).2) ∧
    Latest e.Hears ("", "") (e.course t.script.instructions t) (e.execute s).2.outputs ∧
    Latest e.Exchanges none (e.course t.script.instructions t) (e.execute s).2.stdin := by
  have streamwise := streamwise_of_make made commands
  rw [← params_of_make made] at setup
  have empty : t.outputs = ("", "") ∧ t.stdin = none := by
    obtain ⟨script, deadline, workDir, scratch, host, -, -, rfl⟩ := prepare_eq_ok prepared
    have same := ready.keeps (R := SameStreams) (refl_of SameStreams) setup
    exact ⟨same.outputs, same.stdin⟩
  have run (insts : List Instruction) := streamed_runInstructions streamwise insts t
  refine ⟨?_, ?_⟩
  · intro insts u passes
    have streamed := run insts
    rw [passes.runInstructions] at streamed
    have outputs := streamed.outputs
    have input := streamed.input
    rw [empty.1] at outputs
    rw [empty.2] at input
    exact ⟨outputs, input, fun inst l ground => stdin_of_launches⟩
  · obtain ⟨outputs, input⟩ := run t.script.instructions
    rw [empty.1, ← ready.runs] at outputs
    rw [empty.2, ← ready.runs] at input
    exact ⟨outputs, input⟩

/-- What a program in the foreground has written becomes the input of the next one. That one runs
in the background, and a `wait` for a third one, which does not end, is in vain. -/
def relaySource : String := "! exec p x\nstdin stdout\nexec p &\nexec p x y &b&\nwait b\n"

/-- A host on which programs in the foreground come to their end. -/
def relayHost : Host :=
  { programHost relaySource with patience := 3 }

/-- The session that the script is run in on that host, if it can be prepared. -/
def relaySession? : Option Session :=
  (hasty.prepare "t" plainPath relayHost.time.1 relayHost.time.2).toOption

theorem streams_latest_relay :
    ∃ s, relaySession? = some s ∧
      Latest hasty.Hears ("", "") (hasty.course s.script.instructions s) ("x", "") ∧
      Latest hasty.Exchanges none (hasty.course s.script.instructions s) none := by
  have ran : relaySession?.map (fun s =>
      ((hasty.execute s).2.outputs, (hasty.execute s).2.stdin)) = some (("x", ""), none) := by
    decide +kernel
  obtain ⟨s, session, streams⟩ := Option.map_eq_some_iff.mp ran
  rw [Prod.mk.injEq] at streams
  obtain ⟨outputs, stdin⟩ := streams
  have made : make noPatterns hasty.params = .ok hasty := rfl
  have prepared : hasty.prepare "t" plainPath relayHost.time.1 relayHost.time.2 = .ok s :=
    eq_ok_of_toOption session
  obtain ⟨-, heard, exchanged⟩ := streams_latest made
    (fun _ mem => absurd mem List.not_mem_nil) (fun _ found => by cases found) prepared rfl
  rw [outputs] at heard
  rw [stdin] at exchanged
  exact ⟨s, session, heard, exchanged⟩

end

end Engine
end ScriptSuite
