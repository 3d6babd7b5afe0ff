import ScriptSuite.Proofs.Session.Sandbox
import ScriptSuite.Proofs.Session.Updating
import ScriptSuite.Proofs.Suite.Course
import ScriptSuite.Proofs.Suite.Finish
import ScriptSuite.Suite.Basic

/-!
What a run does to its own script.

A run prepares a session, calls handlers, and ends the session; between the calls it leaves the
place of its script to the processes, and after them it writes there at most once (`Touches`). It
does so if and only if it gets through the instructions and a comparison has updated a file
(`Rewrites`), and what it writes is the script with its archive as the updates have left it
(`run_protects`). The results that a run can give are `Coherent`.
-/

namespace ScriptSuite

open Handler Session

namespace ScriptResult

/-- The fields of a result agree with its outcome, and only a script that has passed in update
mode counts as updated. -/
structure Coherent (canUpdate : Bool) (r : ScriptResult) : Prop where
  failure : r.failure.isSome = true ↔ r.outcome = .failed
  skipReason : r.skipReason.isSome = true ↔ r.outcome = .skipped
  updated : r.isUpdated = true → r.outcome = .passed ∧ canUpdate = true

variable {canUpdate : Bool} {r : ScriptResult}

/-- A new result is that of a script that has passed, and coherent. -/
theorem coherent_new (canUpdate : Bool) (name : String) (path : Location) :
    (new name path).Coherent canUpdate := by
  constructor <;> simp [new]

/-- A failure must come before anything else has been found out, or a reason to skip the script
would stay beside it. -/
theorem Coherent.fail (coherent : r.Coherent canUpdate) (passed : r.outcome = .passed)
    (notUpdated : r.isUpdated = false) (line : Option Nat) (message : String) :
    (r.fail line message).Coherent canUpdate := by
  have noReason := coherent.skipReason
  rw [passed] at noReason
  constructor
  · simp [ScriptResult.fail]
  · simpa [ScriptResult.fail] using noReason
  · simp [ScriptResult.fail, notUpdated]

/-- To skip a script that has neither failed nor been updated leaves its result coherent. -/
theorem Coherent.skip (coherent : r.Coherent canUpdate) (passed : r.outcome = .passed)
    (notUpdated : r.isUpdated = false) (reason : String) :
    (r.skip reason).Coherent canUpdate := by
  have noFailure := coherent.failure
  rw [passed] at noFailure
  constructor
  · simpa [ScriptResult.skip] using noFailure
  · simp [ScriptResult.skip]
  · simp [ScriptResult.skip, notUpdated]

/-- An attempt to write the script back is only made in update mode. -/
theorem Coherent.recordWrite (coherent : r.Coherent canUpdate) (passed : r.outcome = .passed)
    (notUpdated : r.isUpdated = false) {written : Except HostError Bool}
    (updates : written = .ok true → canUpdate = true) :
    (Engine.recordWrite r written).Coherent canUpdate := by
  cases written with
  | error err => exact coherent.fail passed notUpdated none _
  | ok isUpdated =>
    cases isUpdated with
    | false => exact coherent
    | true =>
      refine ⟨coherent.failure, coherent.skipReason, ?_⟩
      intro _
      exact ⟨passed, updates rfl⟩

/-- What a result tells besides is no matter. -/
theorem Coherent.congr {r' : ScriptResult} (coherent : r.Coherent canUpdate)
    (same : r'.verdict = r.verdict) : r'.Coherent canUpdate := by
  obtain ⟨outcome, failure, skipReason, isUpdated⟩ := verdict_eq_iff.mp same
  constructor
  · rw [failure, outcome]
    exact coherent.failure
  · rw [skipReason, outcome]
    exact coherent.skipReason
  · rw [isUpdated, outcome]
    exact coherent.updated

theorem coherent_panicked (canUpdate : Bool) (name : String) (path : Location) :
    (panicked name path).Coherent canUpdate :=
  (coherent_new canUpdate name path).fail rfl rfl none _

end ScriptResult

namespace Engine

/-- Something by which what stands at the place of a script may change: a handler that leads from
one host to another, or the script is written. -/
inductive Touch where
  | handler (before after : Host)
  | write (data : Bytes)

/-- What leads from one host to another in a run of the script at `path`, which stands at the
place `q`: nothing but the given touches disturbs the place. -/
inductive Touches (path : Location) (q : Place) : List Touch → Host → Host → Prop where
  | none {h h' : Host} : h.Undisturbed q h' → Touches path q [] h h'
  | handler {ts : List Touch} {h before after h' : Host} : h.Undisturbed q before →
      Touches path q ts after h' → Touches path q (.handler before after :: ts) h h'
  | write {ts : List Touch} {h h' h'' : Host} {data : Bytes} : h.Undisturbed q h' →
      Touches path q ts (h'.write path data).2 h'' → Touches path q (.write data :: ts) h h''

/-- The handler that an instruction calls, if it calls one. -/
def handlerOf (e : Engine) (inst : Instruction) (s : Session) : List Touch :=
  match e.call? s inst with
  | some call => [.handler call.session.host (sessionAfter (call.answer inst)).host]
  | none => []

/-- The handlers that instructions call one after another, up to the first that ends the run. -/
def handlersOf (e : Engine) : List Instruction → Session → List Touch
  | [], _ => []
  | inst :: rest, s =>
    e.handlerOf inst s ++
      match e.step inst s with
      | (.goesOn, t) => handlersOf e rest t
      | _ => []

/-- The handlers that are called for a session, the setup hook first. -/
def sessionHandlers (e : Engine) (s : Session) : List Touch :=
  match e.params.setup with
  | none => e.handlersOf s.script.instructions s
  | some hook =>
    .handler s.host (sessionAfter (hook.run s)).host ::
      match hook.run s with
      | .ok _ t => e.handlersOf t.script.instructions t
      | .error _ _ => []

/-- The handlers that are called in a run. -/
def runHandlers (e : Engine) (name : String) (path : Location) (h : Host) : List Touch :=
  match e.prepare name path h.time.1 h.time.2 with
  | .ok s => e.sessionHandlers s
  | .error _ => []

/-- The run gets through its instructions, a comparison has updated a file meanwhile, and the
script then has these bytes. -/
def Rewrites (e : Engine) (name : String) (path : Location) (h : Host) (data : Bytes) : Prop :=
  ∃ s t, e.prepare name path h.time.1 h.time.2 = .ok s ∧
    e.execute s = (.halts .completed, t) ∧ Session.Updated s t ∧
    data = Text.bytesOf t.script.toSource

section

variable {e : Engine} {name : String} {path : Location} {q : Place} {h h' h'' : Host} {s : Session}
  {ts ts' : List Touch}

theorem Touches.after (before : h.Undisturbed q h') (touches : Touches path q ts h' h'') :
    Touches path q ts h h'' := by
  cases touches with
  | none undisturbed => exact .none (before.trans undisturbed)
  | handler undisturbed rest => exact .handler (before.trans undisturbed) rest
  | write undisturbed rest => exact .write (before.trans undisturbed) rest

theorem Touches.append (first : Touches path q ts h h') (second : Touches path q ts' h' h'') :
    Touches path q (ts ++ ts') h h'' := by
  induction first with
  | none undisturbed => exact second.after undisturbed
  | handler undisturbed _ ih => exact .handler undisturbed (ih second)
  | write undisturbed _ ih => exact .write undisturbed (ih second)

theorem Touches.then (first : Touches path q ts h h') (undisturbed : h'.Undisturbed q h'') :
    Touches path q ts h h'' := by
  have both := first.append (.none undisturbed)
  rwa [List.append_nil] at both

/-! ### While instructions are run -/

theorem isOverdue_undisturbed (s : Session) : s.host.Undisturbed q (isOverdue s).2.host := by
  rw [isOverdue]
  split
  · exact .refl q s.host
  · exact (Host.passing_undisturbed q).elapsing.time s.host

/-- An instruction looks at the clock and calls its handler, and what is made of the answer
touches nothing. -/
theorem step_touches (inst : Instruction) (s : Session) :
    Touches path q (e.handlerOf inst s) s.host (e.step inst s).2.host := by
  have looked := isOverdue_undisturbed (q := q) s
  rw [handlerOf]
  cases called : e.call? s inst with
  | none =>
    obtain ⟨log, same⟩ := step_of_no_call called
    rw [same]
    exact .none looked
  | some call =>
    obtain ⟨log, same⟩ := endOf_log inst.expectation (!s.hasStarted) (call.answer inst)
    rw [step_of_call called, same]
    rw [← host_of_call called] at looked
    exact .handler looked (.none (.refl q _))

/-- The instructions touch a script only through their handlers. -/
theorem runInstructions_touches (insts : List Instruction) (s : Session) :
    Touches path q (e.handlersOf insts s) s.host (e.runInstructions insts s).2.host := by
  induction insts generalizing s with
  | nil => exact .none (.refl q s.host)
  | cons inst rest ih =>
    have stepped : Touches path q (e.handlerOf inst s) s.host (e.step inst s).2.host :=
      step_touches inst s
    rw [runInstructions, handlersOf]
    cases ended : e.step inst s with
    | mk ending t =>
      rw [ended] at stepped
      cases ending with
      | goesOn => exact stepped.append (ih t)
      | halts halt => simpa using stepped
      | fails err => simpa using stepped
      | panics => simpa using stepped
      | endless => simpa using stepped

theorem execute_touches (s : Session) :
    Touches path q (e.sessionHandlers s) s.host (e.execute s).2.host := by
  rw [execute, sessionHandlers]
  cases e.params.setup with
  | none => exact runInstructions_touches _ s
  | some hook =>
    refine .handler (.refl q s.host) ?_
    simp only
    cases hook.run s with
    | ok _ t => exact runInstructions_touches _ t
    | error interrupt t => cases interrupt <;> exact .none (.refl q t.host)

/-! ### Before and after -/

/-- A script that has been loaded is a file. -/
theorem holds_of_loadScript {script : Script} (loaded : Suite.loadScript h path = .ok script)
    (placed : h.place path = .ok q) : ∃ f, h.Holds q f h.processes := by
  obtain ⟨source, reads, -⟩ := Suite.loadScript_eq_ok loaded
  rw [Host.readText, Host.read, Host.node, Node.nodeFrom] at reads
  rw [Host.place] at placed
  rw [placed] at reads
  simp only at reads
  cases stands : h.files.find? q with
  | none => simp [stands] at reads
  | some node =>
    cases node with
    | file f => exact ⟨f, stands, rfl⟩
    | folder mode inside => simp [stands] at reads

/-- A new sandbox stays off a file that is there. -/
theorem makeSandbox_holds {f : File} {ps : List Process} (holds : h.Holds q f ps) :
    (e.makeSandbox h).2.Holds q f ps ∧ ∀ p, (e.makeSandbox h).1 = .ok p → p.StaysOff q := by
  rw [makeSandbox]
  cases e.params.workRoot with
  | none =>
    simp only
    exact holds.makeSandbox _
  | some root =>
    have made := holds.makeFolders root
    simp only
    generalize h.makeFolders root = outcome at made ⊢
    obtain ⟨_ | ⟨⟩, host⟩ := outcome
    · refine ⟨made, ?_⟩
      rintro p ⟨⟩
    · have made : host.Holds q f ps := made
      simp only
      exact made.makeSandbox root

/-- The host after a session has been prepared, or after it could not be. -/
def hostPrepared : Except (RunEnd × Host) Session → Host
  | .error ended => ended.2
  | .ok s => s.host

/-- Whether a session can be prepared or not, the script is left as it is, and the sandbox is apart
from it. -/
theorem prepare_undisturbed (e : Engine) (placed : h.place path = .ok q) (name : String)
    (start : Instant) :
    h.Undisturbed q (hostPrepared (e.prepare name path start h)) ∧
      ∀ s, e.prepare name path start h = .ok s → s.workDir.StaysOff q := by
  rw [prepare]
  split
  · refine ⟨.refl q h, ?_⟩
    rintro s ⟨⟩
  · next script loaded =>
    obtain ⟨f, holds⟩ := holds_of_loadScript loaded placed
    obtain ⟨made, off⟩ := makeSandbox_holds (e := e) holds
    simp only
    split
    · next failed =>
      rw [failed] at made
      refine ⟨holds.undisturbed made, ?_⟩
      rintro s ⟨⟩
    · next workDir host done =>
      rw [done] at made off
      have off : workDir.StaysOff q := off workDir rfl
      split
      · refine ⟨(holds.undisturbed made).trans (Host.removeSandbox_undisturbed off host), ?_⟩
        rintro s ⟨⟩
      · next deadline _ =>
        have opened := open?_holds off made script (e.options deadline)
        split
        · next failed =>
          rw [failed] at opened
          refine ⟨(holds.undisturbed opened).trans (Host.removeSandbox_undisturbed off _), ?_⟩
          rintro s ⟨⟩
        · next t done =>
          rw [done] at opened
          refine ⟨holds.undisturbed opened, ?_⟩
          rintro s ⟨⟩
          exact workDir_of_open? done ▸ off

theorem conclude_undisturbed (r : ScriptResult) (s : Session) (off : s.workDir.StaysOff q) :
    s.host.Undisturbed q (conclude r s).2 := by
  have ended := teardown_passing (Host.passing_undisturbed q) s
  have closed := s.teardown.2.close_undisturbed (q := q) (by rwa [workDir_teardown])
  rw [conclude]
  split
  · next broken =>
    rw [broken] at ended closed
    exact ended.trans closed
  · next done =>
    rw [done] at ended closed
    exact ended.trans closed

/-- What is written to the script of a session whose instructions have been got through. -/
def lastWrites (s : Session) : List Bytes :=
  if s.hasUpdated then [Text.bytesOf s.script.toSource] else []

/-- What is written to its script when the instructions of a session have ended. -/
def writesAfter : ScriptEnd × Session → List Bytes
  | (.halts .completed, t) => lastWrites t
  | _ => []

theorem length_writesAfter (ran : ScriptEnd × Session) : (writesAfter ran).length ≤ 1 := by
  unfold writesAfter
  split
  · unfold lastWrites
    split
    · exact Nat.le_refl 1
    · exact Nat.zero_le 1
  · exact Nat.zero_le 1

/-- A session writes to its script if its instructions have been got through and it counts as
updated, and only then. -/
theorem mem_writesAfter_iff {ran : ScriptEnd × Session} {data : Bytes} :
    data ∈ writesAfter ran ↔
      ∃ t, ran = (.halts .completed, t) ∧ t.hasUpdated = true ∧
        data = Text.bytesOf t.script.toSource := by
  constructor
  · intro mem
    unfold writesAfter at mem
    split at mem
    · next t =>
      unfold lastWrites at mem
      split at mem
      · next updated => exact ⟨t, rfl, updated, List.mem_singleton.mp mem⟩
      · exact absurd mem List.not_mem_nil
    · exact absurd mem List.not_mem_nil
  · rintro ⟨t, rfl, updated, same⟩
    rw [writesAfter, lastWrites, if_pos updated]
    exact List.mem_singleton.mpr same

/-- To write a script back touches it at most once, and only if an archive file has been updated. -/
theorem writeBack_touches (path : Location) (s : Session) :
    Touches path q ((lastWrites s).map .write) s.host (writeBack path s).2.host ∧
      (writeBack path s).2.workDir = s.workDir := by
  unfold writeBack lastWrites
  split
  · have wrote : Touches path q [.write (Text.bytesOf s.script.toSource)] s.host
        (s.host.write path (Text.bytesOf s.script.toSource)).2 :=
      .write (.refl q s.host) (.none (.refl q _))
    split
    · next done =>
      rw [done] at wrote
      exact ⟨wrote, rfl⟩
    · next failed =>
      rw [failed] at wrote
      exact ⟨wrote, rfl⟩
  · exact ⟨.none (.refl q s.host), rfl⟩

/-- A session is touched by its handlers, and by what is written after them. -/
theorem runSession_touches (r : ScriptResult) (off : s.workDir.StaysOff q)
    (workDir : (e.execute s).2.workDir = s.workDir) :
    Touches path q (e.sessionHandlers s ++ (writesAfter (e.execute s)).map .write) s.host
      (e.runSession path r s).2 := by
  have ran : Touches path q (e.sessionHandlers s) s.host (e.execute s).2.host := execute_touches s
  rw [← workDir] at off
  unfold runSession
  generalize e.execute s = ended at ran off ⊢
  obtain ⟨ending, t⟩ := ended
  have quiet {h' : Host} (undisturbed : t.host.Undisturbed q h') :
      Touches path q (e.sessionHandlers s ++ [].map .write) s.host h' := by
    rw [List.map_nil, List.append_nil]
    exact ran.then undisturbed
  cases ending with
  | halts halt =>
    cases halt with
    | completed =>
      obtain ⟨wrote, same⟩ := writeBack_touches (q := q) path t
      have offStill : (writeBack path t).2.workDir.StaysOff q := same ▸ off
      exact ran.append (wrote.then (conclude_undisturbed _ _ offStill))
    | skipped reason => exact quiet (conclude_undisturbed _ t off)
  | fails line err => exact quiet (conclude_undisturbed _ t off)
  | panics => exact quiet (t.close_undisturbed off)
  | endless => exact quiet (t.close_undisturbed off)

/-- The host after the time that it takes to look at the clock when a run has ended. -/
theorem run_undisturbed (e : Engine) (name : String) (path : Location) (h : Host) :
    (e.runUntimed name path h.time.1 h.time.2).2.Undisturbed q (e.run name path h).2 := by
  rw [run]
  simp only
  split
  · next ran =>
    rw [ran]
    exact (Host.passing_undisturbed q).elapsing.time _
  · exact .refl q _

/-! ### Runs -/

theorem lasting_runs : Lasting Runs where
  trans := Runs.trans
  changes := Reaches.runs
  called := fun s expectation => .single (.called s expectation)

/-- Only in update mode are there updates to be written. -/
theorem Rewrites.canUpdate {data : Bytes} (rewrites : e.Rewrites name path h data) :
    e.params.canUpdate = true := by
  obtain ⟨s, t, prepared, -, updated, -⟩ := rewrites
  obtain ⟨script, deadline, workDir, scratch, host, -, -, rfl⟩ := prepare_eq_ok prepared
  exact updated.canUpdate rfl

/-- Nothing has been found out about a script before its instructions have ended, and then all of
it is found out at once. -/
theorem coherent_of_runSession {canUpdate : Bool} {r result : ScriptResult}
    (coherent : r.Coherent canUpdate) (passed : r.outcome = .passed)
    (notUpdated : r.isUpdated = false)
    (updates : ∀ t, e.execute s = (.halts .completed, t) → t.hasUpdated = true →
      canUpdate = true)
    (finished : e.runSession path r s = (.finished result, h')) :
    result.Coherent canUpdate := by
  rw [runSession] at finished
  cases ended : e.execute s with
  | mk ending t =>
    rw [ended] at finished
    cases ending with
    | halts halt =>
      cases halt with
      | completed =>
        obtain ⟨_, -, rfl⟩ := conclude_eq_finished finished
        refine (coherent.recordWrite passed notUpdated fun written => ?_).congr rfl
        exact updates t ended (writeBack_updated written).1
      | skipped reason =>
        obtain ⟨_, -, rfl⟩ := conclude_eq_finished finished
        exact (coherent.skip passed notUpdated reason).congr rfl
    | fails line err =>
      obtain ⟨_, -, rfl⟩ := conclude_eq_finished finished
      exact (coherent.fail passed notUpdated line err.message).congr rfl
    | panics => cases finished
    | endless => cases finished

/-- The result of a run is coherent, however it ends. -/
theorem coherent_of_run (runs : ∀ s, Runs s (e.execute s).2) {result : ScriptResult}
    (finished : e.run name path h = (.finished result, h')) :
    result.Coherent e.params.canUpdate := by
  have fresh := ScriptResult.coherent_new e.params.canUpdate name path
  rw [run] at finished
  simp only [runUntimed] at finished
  cases prepared : e.prepare name path h.time.1 h.time.2 with
  | error ended =>
    obtain ⟨ending, host⟩ := ended
    rw [prepared] at finished
    cases ending with
    | finished inner =>
      cases finished
      obtain ⟨line, message, rfl⟩ := fail_of_prepare prepared
      exact (fresh.fail rfl rfl line message).congr rfl
    | panicked => cases finished
    | endless => cases finished
  | ok s =>
    have updates (t : Session) (completed : e.execute s = (.halts .completed, t))
        (updated : t.hasUpdated = true) : e.params.canUpdate = true := by
      obtain ⟨script, deadline, workDir, scratch, host, -, -, rfl⟩ := prepare_eq_ok prepared
      have ran := runs (start script workDir scratch (e.options deadline) host)
      rw [completed] at ran
      exact ((hasUpdated_iff_updated ran rfl).mp updated).canUpdate rfl
    cases ran : e.runSession path (.new name path) s with
    | mk ending host =>
      simp only [prepared, ran] at finished
      cases ending with
      | finished inner =>
        cases finished
        exact (coherent_of_runSession fresh rfl rfl updates ran).congr rfl
      | panicked => cases finished
      | endless => cases finished

/-- A run writes to its script if and only if its updates are to be written, and then once. -/
theorem touches_of_run (runs : ∀ s, Runs s (e.execute s).2) (placed : h.time.2.place path = .ok q)
    (name : String) :
    ∃ writes : List Bytes, Touches path q (e.runHandlers name path h ++ writes.map .write) h
        (e.run name path h).2 ∧
      writes.length ≤ 1 ∧ ∀ data, data ∈ writes ↔ e.Rewrites name path h data := by
  have looked : h.Undisturbed q h.time.2 := (Host.passing_undisturbed q).elapsing.time h
  have timed := run_undisturbed (q := q) e name path h
  obtain ⟨kept, off⟩ := prepare_undisturbed e placed name h.time.1
  rw [runHandlers]
  cases prepared : e.prepare name path h.time.1 h.time.2 with
  | error ended =>
    rw [prepared] at kept
    rw [runUntimed, prepared] at timed
    refine ⟨[], .none ((looked.trans kept).trans timed), Nat.zero_le 1, fun data => ?_⟩
    refine iff_of_false List.not_mem_nil ?_
    rintro ⟨s, t, ready, -⟩
    cases prepared.symm.trans ready
  | ok s =>
    rw [prepared] at kept
    rw [runUntimed, prepared] at timed
    have touches : Touches path q (e.sessionHandlers s ++ (writesAfter (e.execute s)).map .write)
        s.host (e.runSession path (.new name path) s).2 :=
      runSession_touches _ (off s prepared) (runs s).settled.workDir
    refine ⟨writesAfter (e.execute s), ?_, length_writesAfter _, fun data => ?_⟩
    · exact (touches.after (looked.trans kept)).then timed
    · rw [mem_writesAfter_iff]
      obtain ⟨script, deadline, workDir, scratch, host, -, -, fresh⟩ := prepare_eq_ok prepared
      constructor
      · rintro ⟨t, completed, updated, rfl⟩
        have ran := runs s
        rw [completed] at ran
        exact ⟨s, t, prepared, completed, (hasUpdated_iff_updated ran (fresh ▸ rfl)).mp updated,
          rfl⟩
      · rintro ⟨s', t, ready, completed, updated, rfl⟩
        cases prepared.symm.trans ready
        have ran := runs s
        rw [completed] at ran
        exact ⟨t, completed, (hasUpdated_iff_updated ran (fresh ▸ rfl)).mpr updated, rfl⟩

/-- The second instruction fails after the first has updated a file. -/
def brokenOffSource : String := "cmp got want\nbogus\n-- got --\nnew\n-- want --\n"

end

end Engine
end ScriptSuite
