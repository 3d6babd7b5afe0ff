import ScriptSuite.Proofs.Command.Orderly
import ScriptSuite.Suite.Engine

/-!
What an instruction does to a run.

An instruction calls the handler of its command (`call?`), and what it does besides are edits
(`step_of_call`, `edits_of_no_call`). `Answers` says what the handler answers without a time
limit; how the instruction ends is then told by the answer (`Continues`, `Stops`, `Skips`,
`Breaks`), if it is not inactive (`step_goesOn_iff` and its siblings).
-/

namespace ScriptSuite.Engine

open Handler Session

/-- The answer of a handler, and the session that it leaves. -/
abbrev Answer := EStateM.Result Interrupt Session Unit

section

variable (e : Engine) (s : Session) (inst : Instruction)

/-- Whether the conditions of an instruction hold, or the tag that is unknown. -/
def conditionsHold : Except String Bool :=
  e.params.conditions.allHold s.host (s.environment.value? searchVariable) inst.conditions

/-- The session in which the line of an instruction has been logged. -/
def announced : Session :=
  s.write ("> " ++ String.ofList (Text.trim inst.text.toList))

/-- A handler that is called, its arguments, and the session in which it is called. -/
structure Call where
  command : Command
  arguments : List String
  session : Session

/-- A session in which the handler of an instruction is called. -/
def calling : Session :=
  { s with hasStarted := true, expectation := inst.expectation, isDeferred := false }

/-- The call that the instruction comes to, if the time is not up, its conditions hold, and
there is a command of its name that takes its mark. -/
def call? : Option Call :=
  match isOverdue s with
  | (true, _) => none
  | (false, s) =>
    match e.conditionsHold s inst, e.registry.command? inst.name with
    | .ok true, some c =>
      if inst.expectation = .success ∨ c.isNegatable = true then
        let expanded := (expandAll inst.arguments).run (announced s inst)
        some ⟨c, expanded.1, calling expanded.2 inst⟩
      else none
    | _, _ => none

/-- What the handler of a call answers. -/
def Call.answer (call : Call) : Answer :=
  (call.command.run inst.expectation.isNegated call.arguments).run call.session

/-- The conditions of the instruction hold, the command takes its mark, and the handler answers
when it is called. -/
inductive Answers : Answer → Prop where
  | call {c : Command} {arguments : List String} {t : Session} :
      e.conditionsHold s inst = .ok true → e.registry.command? inst.name = some c →
      (inst.expectation = .success ∨ c.isNegatable = true) →
      (expandAll inst.arguments).run (announced s inst) = (arguments, t) →
      Answers ((c.run inst.expectation.isNegated arguments).run
        { t with hasStarted := true, expectation := inst.expectation, isDeferred := false })

/-- The handler answers, and the run goes on in the session `t`. -/
inductive Continues : Session → Prop where
  | succeeded {t : Session} : e.Answers s inst (.ok () t) →
      (t.isDeferred = true ∨ inst.expectation ≠ .failure) → Continues t
  | failed {text : String} {t : Session} :
      e.Answers s inst (.error (.error (.failed text)) t) → t.isDeferred = false →
      inst.expectation ≠ .success → Continues (t.write ("[failure expected] " ++ text))

/-- The handler ends the run with success. -/
def Stops : Prop :=
  ∃ reason t, e.Answers s inst (.error (.error (.stop reason)) t) ∧ t.isDeferred = false

/-- The handler wants the script to be skipped. -/
def Skips (reason : String) : Prop :=
  ∃ t, e.Answers s inst (.error (.error (.skip reason)) t) ∧ t.isDeferred = false

/-- The instruction fails, and with it the run. -/
inductive Breaks : RunError → Prop where
  | condition {tag : String} : e.conditionsHold s inst = .error tag →
      Breaks (.unknownCondition tag)
  | unknown : e.conditionsHold s inst = .ok true → e.registry.command? inst.name = none →
      Breaks (.unknownCommand inst.name)
  | negation {c : Command} {mark : Char} : e.conditionsHold s inst = .ok true →
      e.registry.command? inst.name = some c → inst.expectation.mark? = some mark →
      c.isNegatable = false → Breaks (.negation inst.name mark)
  | succeeded {t : Session} : e.Answers s inst (.ok () t) → t.isDeferred = false →
      inst.expectation = .failure → Breaks (.command (.failed "unexpected command success"))
  | failed {text : String} {t : Session} : e.Answers s inst (.error (.error (.failed text)) t) →
      t.isDeferred = false → inst.expectation = .success → Breaks (.command (.failed text))
  /-- No mark makes up for any other error. -/
  | misused {text : String} {t : Session} : e.Answers s inst (.error (.error (.usage text)) t) →
      t.isDeferred = false → Breaks (.command (.usage text))
  | job {cause : JobError} {t : Session} : e.Answers s inst (.error (.error (.job cause)) t) →
      t.isDeferred = false → Breaks (.command (.job cause))
  | host {cause : HostError} {t : Session} : e.Answers s inst (.error (.error (.host cause)) t) →
      t.isDeferred = false → Breaks (.command (.host cause))
  /-- Only the first handler of a run may skip the script. -/
  | late {reason : String} : e.Skips s inst reason → s.hasStarted = true →
      Breaks (.command (.usage "skip is only allowed before any other instruction"))
  /-- An error is no outcome that could be left to a later `wait`. -/
  | deferred {err : CommandError} {t : Session} : e.Answers s inst (.error (.error err) t) →
      t.isDeferred = true → Breaks (.command err)

end

section

variable {e : Engine} {s t : Session} {inst : Instruction} {ending : StepEnd}

/-- The end of an instruction whose handler has answered. -/
def endOf (expectation : Expectation) (isFirst : Bool) : Answer → StepEnd × Session
  | .ok () t =>
    if !t.isDeferred && expectation = .failure then
      (.fails (.command (.failed "unexpected command success")), t)
    else (.goesOn, t)
  | .error (.error err) t =>
    if t.isDeferred then (.fails (.command err), t) else judgeError expectation isFirst err t
  | .error .panic t => (.panics, t)
  | .error .endless t => (.endless, t)

/-! ### The call of the handler -/

theorem mark?_eq_none_iff {expectation : Expectation} :
    expectation.mark? = none ↔ expectation = .success := by
  cases expectation <;> simp [Expectation.mark?]

/-- A look at the clock changes the host alone. -/
theorem isOverdue_host (s : Session) :
    (isOverdue s).2 = { s with host := (isOverdue s).2.host } := by
  rw [isOverdue]
  split <;> rfl

theorem isOverdue_edits (s : Session) : Edits s (isOverdue s).2 := by
  rw [isOverdue]
  split
  · exact .refl s
  · exact .host s.host.time_grows

theorem judgeError_log (expectation : Expectation) (isFirst : Bool) (err : CommandError)
    (s : Session) : ∃ log, (judgeError expectation isFirst err s).2 = { s with log := log } := by
  cases err with
  | failed text =>
    rw [judgeError]
    by_cases expected : expectation = .success
    · rw [if_pos expected]
      exact ⟨s.log, rfl⟩
    · rw [if_neg expected]
      exact ⟨_, rfl⟩
  | stop reason =>
    rw [judgeError]
    split
    · exact ⟨s.log, rfl⟩
    · exact ⟨_, rfl⟩
  | skip reason =>
    cases isFirst with
    | true => exact ⟨_, rfl⟩
    | false => exact ⟨s.log, rfl⟩
  | _ => exact ⟨s.log, rfl⟩

/-- What is made of an answer changes no more than the log. -/
theorem endOf_log (expectation : Expectation) (isFirst : Bool) (answer : Answer) :
    ∃ log, (endOf expectation isFirst answer).2 = { sessionAfter answer with log := log } := by
  cases answer with
  | ok _ t =>
    rw [endOf]
    split <;> exact ⟨t.log, rfl⟩
  | error interrupt t =>
    cases interrupt with
    | error err =>
      rw [endOf]
      split
      · exact ⟨t.log, rfl⟩
      · exact judgeError_log _ _ _ t
    | panic => exact ⟨t.log, rfl⟩
    | endless => exact ⟨t.log, rfl⟩

theorem endOf_edits (expectation : Expectation) (isFirst : Bool) (answer : Answer) :
    Edits (sessionAfter answer) (endOf expectation isFirst answer).2 := by
  obtain ⟨log, eq⟩ := endOf_log expectation isFirst answer
  rw [eq]
  exact .single (.log _ log) rfl rfl

/-- A command that is known and takes the mark is run with the line in the log. -/
theorem perform_of_takes {c : Command} (found : e.registry.command? inst.name = some c)
    (takes : inst.expectation = .success ∨ c.isNegatable = true) :
    e.perform inst s = dispatch c inst (announced s inst) := by
  rw [perform, found]
  rcases takes with none | negatable
  · rw [none]
    rfl
  · cases mark : inst.expectation.mark? with
    | none => rfl
    | some m => simp only [negatable, if_true]; rfl

theorem dispatch_eq {c : Command} {arguments : List String}
    (expands : (expandAll inst.arguments).run s = (arguments, t)) :
    dispatch c inst s = endOf inst.expectation (!t.hasStarted)
      ((c.run inst.expectation.isNegated arguments).run (calling t inst)) := by
  rw [dispatch, expands]
  rfl

/-- A command is called if and only if the deadline has not passed, the conditions hold, the command
is known and it takes the mark. -/
theorem call?_eq_some_iff {call : Call} :
    e.call? s inst = some call ↔
      ∃ u t, isOverdue s = (false, u) ∧ e.conditionsHold u inst = .ok true ∧
        e.registry.command? inst.name = some call.command ∧
        (inst.expectation = .success ∨ call.command.isNegatable = true) ∧
        (expandAll inst.arguments).run (announced u inst) = (call.arguments, t) ∧
        call.session = calling t inst := by
  rw [call?]
  cases overdue : isOverdue s with
  | mk isUp u =>
    cases isUp with
    | true => simp
    | false =>
      cases holds : e.conditionsHold u inst with
      | error tag => simp [holds]
      | ok active =>
        cases found : e.registry.command? inst.name with
        | none => simp
        | some c =>
          cases active with
          | false => simp [holds]
          | true =>
            by_cases takes : inst.expectation = .success ∨ c.isNegatable = true
            · simp only [holds, if_pos takes, Option.some.injEq, Prod.mk.injEq, true_and]
              constructor
              · rintro rfl
                exact ⟨u, _, rfl, holds, rfl, takes, rfl, rfl⟩
              · rintro ⟨_, t, rfl, -, rfl, -, expands, session⟩
                rw [expands, ← session]
            · simp only [holds, if_neg takes, reduceCtorEq, Prod.mk.injEq, true_and, false_iff]
              rintro ⟨_, _, rfl, -, same, takes', -⟩
              exact takes (Option.some.inj same ▸ takes')

theorem command_of_call {call : Call} (h : e.call? s inst = some call) :
    e.registry.command? inst.name = some call.command := by
  obtain ⟨u, t, -, -, found, -⟩ := call?_eq_some_iff.mp h
  exact found

/-- A handler is called after a look at the clock, and otherwise in the session of the instruction
but for the log and the unique names. -/
theorem session_of_call {call : Call} (h : e.call? s inst = some call) :
    ∃ log n, call.session = calling { (isOverdue s).2 with log := log, unique := n } inst := by
  obtain ⟨u, t, inTime, -, -, -, expands, session⟩ := call?_eq_some_iff.mp h
  obtain ⟨n, unique⟩ := expandAll_unique inst.arguments (announced u inst)
  rw [expands] at unique
  cases unique
  exact ⟨_, n, by rw [session, inTime]; rfl⟩

theorem host_of_call {call : Call} (h : e.call? s inst = some call) :
    call.session.host = (isOverdue s).2.host := by
  obtain ⟨log, n, session⟩ := session_of_call h
  rw [session, calling]

theorem edits_of_call {call : Call} (h : e.call? s inst = some call) :
    ∃ t, Edits s t ∧ call.session = calling t inst := by
  obtain ⟨log, n, session⟩ := session_of_call h
  have logged : Edits s { (isOverdue s).2 with log := log } :=
    (isOverdue_edits s).trans (.single (.log _ log) rfl rfl)
  exact ⟨_, logged.trans (.single (.unique _ n) rfl rfl), session⟩

/-- An instruction that calls a handler ends as the answer tells. -/
theorem step_of_call {call : Call} (h : e.call? s inst = some call) :
    e.step inst s = endOf inst.expectation (!s.hasStarted) (call.answer inst) := by
  obtain ⟨u, t, inTime, active, found, takes, expands, session⟩ := call?_eq_some_iff.mp h
  have timed := isOverdue_edits s
  have expanded := expandAll_tolerated (R := Edits) inst.arguments (announced u inst)
  rw [inTime] at timed
  rw [expands] at expanded
  have first : t.hasStarted = s.hasStarted :=
    ((timed.trans (u.write_tolerated _)).trans expanded).reaches.steady.started
  have reached : e.step inst s = e.perform inst u := by
    rw [conditionsHold] at active
    simp only [step, inTime, active]
  rw [reached, perform_of_takes found takes, dispatch_eq expands, first, Call.answer, session]

/-- An instruction that calls no handler looks at the clock, and changes the log at most. -/
theorem step_of_no_call (h : e.call? s inst = none) :
    ∃ log, (e.step inst s).2 = { (isOverdue s).2 with log := log } := by
  rw [call?] at h
  rw [step]
  cases overdue : isOverdue s with
  | mk isUp u =>
    rw [overdue] at h
    cases isUp with
    | true => exact ⟨u.log, rfl⟩
    | false =>
      simp only [conditionsHold] at h ⊢
      split
      · exact ⟨u.log, rfl⟩
      · exact ⟨u.log, rfl⟩
      · next active =>
        rw [active] at h
        rw [perform]
        cases found : e.registry.command? inst.name with
        | none => exact ⟨_, rfl⟩
        | some c =>
          have untaken : ¬(inst.expectation = .success ∨ c.isNegatable = true) := by
            intro takes
            simp [found, takes] at h
          obtain ⟨marked, notNegatable⟩ := not_or.mp untaken
          cases mark : inst.expectation.mark? with
          | none => exact absurd (mark?_eq_none_iff.mp mark) marked
          | some m =>
            simp only [notNegatable]
            exact ⟨_, rfl⟩

/-- A line that calls no command makes edits at most, so that the jobs stay. -/
theorem edits_of_no_call (h : e.call? s inst = none) : Edits s (e.step inst s).2 := by
  obtain ⟨log, same⟩ := step_of_no_call h
  exact same ▸ (isOverdue_edits s).trans (.single (.log _ log) rfl rfl)

/-! ### Without a time limit -/

theorem step_of_conditions (noLimit : s.deadline = none) :
    e.step inst s =
      match e.conditionsHold s inst with
      | .error tag => (.fails (.unknownCondition tag), s)
      | .ok false => (.goesOn, s)
      | .ok true => e.perform inst s := by
  have inTime : isOverdue s = (false, s) := by rw [isOverdue, noLimit]
  rw [step, inTime]
  rfl

/-- An instruction whose conditions do not hold leaves everything as it is. -/
theorem step_of_inactive (noLimit : s.deadline = none)
    (inactive : e.conditionsHold s inst = .ok false) : e.step inst s = (.goesOn, s) := by
  rw [step_of_conditions noLimit, inactive]

theorem announced_steady (s : Session) (inst : Instruction) : Steady s (announced s inst) :=
  (s.write_tolerated _ : Reaches s (announced s inst)).steady

theorem step_of_answers (noLimit : s.deadline = none) {answer : Answer}
    (h : e.Answers s inst answer) :
    e.step inst s = endOf inst.expectation (!s.hasStarted) answer := by
  cases h with
  | @call c arguments t active found takes expands =>
    have inTime : isOverdue s = (false, s) := by rw [isOverdue, noLimit]
    have called : e.call? s inst = some ⟨c, arguments, calling t inst⟩ :=
      call?_eq_some_iff.mpr ⟨s, t, inTime, active, found, takes, expands, rfl⟩
    exact step_of_call called

/-- What an instruction that ends in some way has done, and the session `t` that it leaves. -/
def Ended (e : Engine) (s : Session) (inst : Instruction) (t : Session) : StepEnd → Prop
  | .goesOn => (e.conditionsHold s inst = .ok false ∧ t = s) ∨ e.Continues s inst t
  | .halts .completed => e.Stops s inst
  | .halts (.skipped reason) => s.hasStarted = false ∧ e.Skips s inst reason
  | .fails err => e.Breaks s inst err
  | .panics => e.Answers s inst (.error .panic t)
  | .endless => e.Answers s inst (.error .endless t)

/-- The end of an instruction tells the answer of its handler. -/
theorem ended_of_answers {answer : Answer} (h : e.Answers s inst answer)
    (eq : endOf inst.expectation (!s.hasStarted) answer = (ending, t)) :
    e.Ended s inst t ending := by
  cases answer with
  | ok _ u =>
    rw [endOf] at eq
    split at eq
    · next unexpected =>
      cases eq
      simp only [Bool.and_eq_true, Bool.not_eq_true', decide_eq_true_eq] at unexpected
      exact .succeeded h unexpected.1 unexpected.2
    · next expected =>
      cases eq
      refine .inr (.succeeded h ?_)
      simpa [Classical.or_iff_not_imp_left] using expected
  | error interrupt u =>
    cases interrupt with
    | panic => cases eq; exact h
    | endless => cases eq; exact h
    | error err =>
      rw [endOf] at eq
      split at eq
      · next deferred => cases eq; exact .deferred h deferred
      · next judged =>
        rw [Bool.not_eq_true] at judged
        cases err with
        | failed text =>
          by_cases expectation : inst.expectation = .success
          · simp only [judgeError, expectation, if_true] at eq
            cases eq
            exact .failed h judged expectation
          · simp only [judgeError, expectation, if_false] at eq
            cases eq
            exact .inr (.failed h judged expectation)
        | usage text => cases eq; exact .misused h judged
        | job cause => cases eq; exact .job h judged
        | host cause => cases eq; exact .host h judged
        | stop reason => cases eq; exact ⟨reason, _, h, judged⟩
        | skip reason =>
          cases started : s.hasStarted with
          | true =>
            simp only [judgeError, started] at eq
            cases eq
            exact .late ⟨_, h, judged⟩ started
          | false =>
            simp only [judgeError, started] at eq
            cases eq
            exact ⟨started, _, h, judged⟩

/-- Without a time limit, all that an instruction can come to. -/
theorem ended_of_step (noLimit : s.deadline = none) (h : e.step inst s = (ending, t)) :
    e.Ended s inst t ending := by
  have conditions : e.step inst s = _ := step_of_conditions noLimit
  cases holds : e.conditionsHold s inst with
  | error tag =>
    rw [conditions, holds] at h
    cases h
    exact .condition holds
  | ok active =>
    cases active with
    | false =>
      rw [conditions, holds] at h
      cases h
      exact .inl ⟨holds, rfl⟩
    | true =>
      have performs : e.step inst s = e.perform inst s := by rw [conditions, holds]
      cases found : e.registry.command? inst.name with
      | none =>
        rw [performs, perform, found] at h
        cases h
        exact .unknown holds found
      | some c =>
        by_cases takes : inst.expectation = .success ∨ c.isNegatable = true
        · have answers := Answers.call holds found takes rfl
          exact ended_of_answers answers ((step_of_answers noLimit answers).symm.trans h)
        · obtain ⟨marked, notNegatable⟩ := not_or.mp takes
          rw [Bool.not_eq_true] at notNegatable
          obtain ⟨mark, hmark⟩ : ∃ mark, inst.expectation.mark? = some mark := by
            cases expectation : inst.expectation with
            | success => exact absurd expectation marked
            | failure => exact ⟨_, rfl⟩
            | either => exact ⟨_, rfl⟩
          rw [performs, perform, found] at h
          simp only [hmark, notNegatable] at h
          cases h
          exact .negation holds found hmark notNegatable

/-! ### How instructions end -/

/-- The run goes on after an inactive instruction, and after one whose handler has done what
was expected. -/
theorem step_goesOn_iff (noLimit : s.deadline = none) :
    e.step inst s = (.goesOn, t) ↔
      (e.conditionsHold s inst = .ok false ∧ t = s) ∨ e.Continues s inst t := by
  constructor
  · exact ended_of_step noLimit
  · rintro (⟨inactive, rfl⟩ | goesOn)
    · exact step_of_inactive noLimit inactive
    · cases goesOn with
      | succeeded answers accepted =>
        rw [step_of_answers noLimit answers, endOf]
        rcases accepted with deferred | expected
        · simp [deferred]
        · simp [expected]
      | failed answers judged expected =>
        rw [step_of_answers noLimit answers]
        simp [endOf, judged, judgeError, expected]

/-- The run goes on after an answer that is judged at once if the handler has succeeded and was
not to fail, or a check has failed and was allowed to. -/
theorem goesOn_iff_of_answers (noLimit : s.deadline = none) {answer : Answer}
    (answers : e.Answers s inst answer) (judged : (sessionAfter answer).isDeferred = false) :
    (e.step inst s).1 = .goesOn ↔
      (∃ t, answer = .ok () t ∧
        (inst.expectation = .success ∨ inst.expectation = .either)) ∨
      ∃ text t, answer = .error (.error (.failed text)) t ∧
        (inst.expectation = .failure ∨ inst.expectation = .either) := by
  rw [step_of_answers noLimit answers]
  cases answer with
  | ok _ t =>
    replace judged : t.isDeferred = false := judged
    cases expectation : inst.expectation <;> simp [endOf, judged]
  | error interrupt t =>
    replace judged : t.isDeferred = false := judged
    cases interrupt with
    | panic => simp [endOf]
    | endless => simp [endOf]
    | error err =>
      cases err with
      | failed text => cases expectation : inst.expectation <;> simp [endOf, judged, judgeError]
      | skip reason => cases started : s.hasStarted <;> simp [endOf, judged, judgeError]
      | _ => simp [endOf, judged, judgeError]

/-- A mark that the command does not take ends the run before the handler is called. -/
theorem step_of_negation (noLimit : s.deadline = none) {c : Command} {mark : Char}
    (holds : e.conditionsHold s inst = .ok true) (found : e.registry.command? inst.name = some c)
    (marked : inst.expectation.mark? = some mark) (notNegatable : c.isNegatable = false) :
    e.step inst s = (.fails (.negation inst.name mark), announced s inst) := by
  rw [step_of_conditions noLimit, holds]
  simp only [perform, found, marked, notNegatable]
  rfl

/-- A step completes the run if and only if its command stops it. -/
theorem step_completed_iff (noLimit : s.deadline = none) :
    (e.step inst s).1 = .halts .completed ↔ e.Stops s inst := by
  constructor
  · intro h
    exact ended_of_step noLimit (Prod.ext h rfl)
  · rintro ⟨reason, t, answers, judged⟩
    rw [step_of_answers noLimit answers]
    simp [endOf, judged, judgeError]

/-- A step skips the script if and only if its command asks for that and is the first. -/
theorem step_skipped_iff (noLimit : s.deadline = none) {reason : String} :
    (e.step inst s).1 = .halts (.skipped reason) ↔
      s.hasStarted = false ∧ e.Skips s inst reason := by
  constructor
  · intro h
    exact ended_of_step noLimit (Prod.ext h rfl)
  · rintro ⟨first, t, answers, judged⟩
    rw [step_of_answers noLimit answers]
    simp [endOf, judged, judgeError, first]

/-- A step fails if and only if the line breaks, in one of the listed ways. -/
theorem step_fails_iff (noLimit : s.deadline = none) {err : RunError} :
    (e.step inst s).1 = .fails err ↔ e.Breaks s inst err := by
  constructor
  · intro h
    exact ended_of_step noLimit (Prod.ext h rfl)
  · intro h
    cases h with
    | condition holds => rw [step_of_conditions noLimit, holds]
    | unknown holds found => rw [step_of_conditions noLimit, holds]; simp [perform, found]
    | negation holds found mark notNegatable =>
      rw [step_of_conditions noLimit, holds]
      simp [perform, found, mark, notNegatable]
    | late skips started =>
      obtain ⟨t, answers, judged⟩ := skips
      rw [step_of_answers noLimit answers]
      simp [endOf, judged, judgeError, started]
    | succeeded answers judged expectation
    | failed answers judged expectation =>
      rw [step_of_answers noLimit answers]
      simp [endOf, judged, judgeError, expectation]
    | misused answers judged | job answers judged | host answers judged
    | deferred answers judged =>
      rw [step_of_answers noLimit answers]
      simp [endOf, judged, judgeError]

end

end ScriptSuite.Engine
