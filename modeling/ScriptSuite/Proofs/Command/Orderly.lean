import ScriptSuite.Command.Builtin
import ScriptSuite.Proofs.Host.Faults
import ScriptSuite.Proofs.Script.Comparison
import ScriptSuite.Proofs.Session.Change

/-!
Orderly handlers.

A handler keeps a relation if it relates a session to every session that it can leave, however
it ends. It is orderly if besides it never gives up on the script. Whatever is put together of
orderly handlers is orderly, and the built-in commands are put together in this way. Most of them
keep every relation that tolerates what most commands do; `cd` enters another folder besides,
`exec` and `wait` change the list of jobs, and these two and `stdin` change the streams
(`builtin_orderly`). So all built-in commands make nothing but changes (`builtin_keeps`), and all
but `exec` and `wait` nothing but edits (`builtin_edits`).
-/

namespace ScriptSuite

open Session (Change Reaches Edits Tolerant StreamTolerant JobTolerant)

namespace Handler

variable {α β : Type}

/-- The session that a handler leaves, however it ends. -/
def sessionAfter : EStateM.Result Interrupt Session α → Session
  | .ok _ t => t
  | .error _ t => t

/-- The handler, run in a session, leaves one that is related to it. -/
def Leads (R : Session → Session → Prop) (f : Handler α) (s : Session) : Prop :=
  R s (sessionAfter (f.run s))

/-- The handler leaves related sessions only. -/
def Keeps (R : Session → Session → Prop) (f : Handler α) : Prop :=
  ∀ s, Leads R f s

theorem Leads.after {R : Session → Session → Prop} {f : Handler α} {s : Session}
    (h : Leads R f s) : R s (sessionAfter (f.run s)) :=
  h

theorem Leads.mono {R R' : Session → Session → Prop} {f : Handler α} {s : Session}
    (h : Leads R f s) (sub : ∀ {s t}, R s t → R' s t) : Leads R' f s :=
  sub h

/-! ### Putting handlers together -/

/-- What follows a handler that comes to its end starts from the session that it has left. -/
theorem run_bind_of_ok {f : Handler α} {g : α → Handler β} {s t : Session} {a : α}
    (h : f.run s = .ok a t) : (f >>= g).run s = (g a).run t := by
  simp only [EStateM.run, bind, EStateM.bind] at h ⊢
  rw [h]

/-- Nothing follows a handler that is interrupted. -/
theorem run_bind_of_error {f : Handler α} {g : α → Handler β} {s t : Session} {e : Interrupt}
    (h : f.run s = .error e t) : (f >>= g).run s = .error e t := by
  simp only [EStateM.run, bind, EStateM.bind] at h ⊢
  rw [h]

theorem run_get_bind {f : Session → Handler α} {s : Session} :
    (get >>= f).run s = (f s).run s :=
  rfl

theorem onHost_run (act : Host.Act α) (s : Session) :
    (onHost act).run s = .ok (act s.host).1 { s with host := (act s.host).2 } :=
  rfl

theorem tryHost_run {ε : Type} (raise : ε → Interrupt) (act : Host.Act (Except ε α))
    (s : Session) :
    (tryHost raise act).run s =
      match act s.host with
      | (.ok a, h) => .ok a { s with host := h }
      | (.error e, h) => .error (raise e) { s with host := h } := by
  rw [tryHost, run_bind_of_ok (onHost_run act s)]
  obtain ⟨_ | a, h⟩ := act s.host <;> rfl

theorem tryHost_of_ok {ε : Type} {raise : ε → Interrupt} {act : Host.Act (Except ε α)}
    {s : Session} {a : α} {h : Host} (acted : act s.host = (.ok a, h)) :
    (tryHost raise act).run s = .ok a { s with host := h } := by
  rw [tryHost_run, acted]

/-- An act that goes well changes nothing of the session but its host. -/
theorem tryHost_eq_ok {ε : Type} {raise : ε → Interrupt} {act : Host.Act (Except ε α)}
    {s t : Session} {a : α} (ran : (tryHost raise act).run s = .ok a t) :
    ∃ h, act s.host = (.ok a, h) ∧ t = { s with host := h } := by
  rw [tryHost_run] at ran
  cases acted : act s.host with
  | mk result h =>
    rw [acted] at ran
    cases result with
    | ok b =>
      cases ran
      exact ⟨h, rfl, rfl⟩
    | error e => cases ran

theorem Keeps.mono {R R' : Session → Session → Prop} {f : Handler α} (h : Keeps R f)
    (sub : ∀ {s t}, R s t → R' s t) : Keeps R' f :=
  fun s => (h s).mono sub

/-- The handler never gives up on the script. -/
def Calm (f : Handler α) : Prop :=
  ∀ s t, f.run s ≠ .error .panic t

/-- The handler, run in a session, leaves one that is related to it, and does not give up on the
script. -/
structure OrderlyIn (R : Session → Session → Prop) (f : Handler α) (s : Session) : Prop where
  leads : Leads R f s
  calm : ∀ t, f.run s ≠ .error .panic t

/-- The handler leaves related sessions only, and never gives up on the script. -/
def Orderly (R : Session → Session → Prop) (f : Handler α) : Prop :=
  ∀ s, OrderlyIn R f s

theorem Orderly.keeps {R : Session → Session → Prop} {f : Handler α} (h : Orderly R f) :
    Keeps R f :=
  fun s => (h s).leads

theorem Orderly.calm {R : Session → Session → Prop} {f : Handler α} (h : Orderly R f) : Calm f :=
  fun s => (h s).calm

section

variable {R : Session → Session → Prop}

/-- A handler that comes to its end is told by the session that it leaves. -/
theorem orderlyIn_of_ok {f : Handler α} {s t : Session} {a : α} (ran : f.run s = .ok a t)
    (related : R s t) : OrderlyIn R f s := by
  constructor
  · rw [Leads, ran]
    exact related
  · intro t' panics
    cases ran.symm.trans panics

/-- What a handler does with the session that it looks at is only asked about that session. -/
theorem orderly_get_bind {f : Session → Handler α} (h : ∀ s, OrderlyIn R (f s) s) :
    Orderly R (get >>= f) :=
  fun s => ⟨(h s).leads, (h s).calm⟩

theorem orderlyIn_set {s t : Session} (h : R s t) : OrderlyIn R (set t) s :=
  orderlyIn_of_ok rfl h

theorem orderly_modify {g : Session → Session} (h : ∀ s, R s (g s)) :
    Orderly R (modify g) :=
  fun s => orderlyIn_of_ok rfl (h s)

theorem orderly_modifyGet {g : Session → α × Session} (h : ∀ s, R s (g s).2) :
    Orderly R (modifyGet g) :=
  fun s => orderlyIn_of_ok rfl (h s)

end

section

variable {R : Session → Session → Prop} [IsPreorder Session R]

/-- Orderly handlers may follow one another. The second has to be orderly only on the answers that
the first can give. -/
theorem orderlyIn_bind {f : Handler α} {g : α → Handler β} {s : Session} (hf : OrderlyIn R f s)
    (hg : ∀ a t, f.run s = .ok a t → OrderlyIn R (g a) t) : OrderlyIn R (f >>= g) s := by
  have first := hf.leads.after
  cases hrun : f.run s with
  | error e t =>
    have run := run_bind_of_error (g := g) hrun
    rw [hrun] at first
    constructor
    · rw [Leads, run]
      exact first
    · intro t' panics
      cases run.symm.trans panics
      exact hf.calm t hrun
  | ok a t =>
    have run := run_bind_of_ok (g := g) hrun
    have next := hg a t hrun
    rw [hrun] at first
    constructor
    · rw [Leads, run]
      exact trans_of R first next.leads.after
    · rw [run]
      exact next.calm

theorem orderlyIn_bind_of_ok {f : Handler α} {g : α → Handler β} {s t : Session} {a : α}
    (ran : f.run s = .ok a t) (first : R s t) (next : OrderlyIn R (g a) t) :
    OrderlyIn R (f >>= g) s := by
  constructor
  · rw [Leads, run_bind_of_ok ran]
    exact trans_of R first next.leads.after
  · rw [run_bind_of_ok ran]
    exact next.calm

theorem orderly_bind {f : Handler α} {g : α → Handler β} (hf : Orderly R f)
    (hg : ∀ a, Orderly R (g a)) : Orderly R (f >>= g) :=
  fun s => orderlyIn_bind (hf s) fun a t _ => hg a t

theorem orderly_pure (a : α) : Orderly R (pure a : Handler α) :=
  fun s => orderlyIn_of_ok rfl (refl_of R s)

theorem orderly_throw {e : Interrupt} (calm : e ≠ .panic) : Orderly R (throw e : Handler α) := by
  refine fun s => ⟨refl_of R s, fun t panics => ?_⟩
  cases panics
  exact calm rfl

theorem orderly_fail (e : CommandError) : Orderly R (fail e : Handler α) :=
  orderly_throw nofun

theorem orderly_failed (text : String) : Orderly R (failed text : Handler α) :=
  orderly_fail _

theorem orderly_misused (text : String) : Orderly R (misused text : Handler α) :=
  orderly_fail _

theorem orderly_usage (isRight : Bool) (text : String) : Orderly R (usage isRight text) := by
  cases isRight with
  | true => exact orderly_pure ()
  | false => exact orderly_misused _

theorem orderly_ofHost (f : Host → α) : Orderly R (ofHost f) :=
  fun s => orderlyIn_of_ok rfl (refl_of R s)

theorem orderly_resolve (name : String) : Orderly R (resolve name) :=
  fun s => orderlyIn_of_ok rfl (refl_of R s)

theorem orderly_textOfFile (name : String) : Orderly R (textOfFile name) := by
  refine orderly_get_bind fun s => ?_
  cases s.textOfFile name with
  | ok text => exact orderly_pure text s
  | error e => exact orderly_fail e s

/-- What is orderly for one element is so for all of them in turn. -/
theorem orderly_each {f : α → Handler Unit} (h : ∀ a, Orderly R (f a)) (as : List α) :
    Orderly R (each f as) := by
  induction as with
  | nil => exact orderly_pure ()
  | cons a as ih => exact orderly_bind (h a) fun _ => ih

end

/-! ### Handlers that are tolerated -/

section

variable {R : Session → Session → Prop} [Tolerant R]

/-- An act on the host is tolerated as long as the processes only grow in number. -/
theorem orderly_onHost {act : Host.Act α} (grows : ∀ h : Host, h.Grows (act h).2) :
    Orderly R (onHost act) :=
  orderly_modifyGet fun s => Tolerant.host (grows s.host)

theorem orderly_tryHost {ε : Type} {raise : ε → CommandError} {act : Host.Act (Except ε α)}
    (grows : ∀ h : Host, h.Grows (act h).2) :
    Orderly R (tryHost (fun e => .error (raise e)) act) := by
  refine orderly_bind (orderly_onHost grows) fun result => ?_
  cases result with
  | ok a => exact orderly_pure a
  | error e => exact orderly_fail (raise e)

/-- An act on a job is orderly if no fault of it is a point in time that cannot be represented. -/
theorem orderly_tryJob {act : Host.Act (Except JobFault α)}
    (timely : ∀ {h fault h'}, act h = (.error fault, h') → fault.Timely)
    (grows : ∀ h : Host, h.Grows (act h).2) : Orderly R (tryHost JobFault.interrupt act) := by
  refine fun s => orderlyIn_bind (orderly_onHost grows s) fun result t ran => ?_
  cases result with
  | ok a => exact orderly_pure a t
  | error fault =>
    have failed : (act s.host).1 = .error fault := by
      rw [onHost_run, EStateM.Result.ok.injEq] at ran
      exact ran.1
    exact orderly_throw (timely (Prod.ext failed rfl)).interrupt_ne t

theorem orderly_log (text : String) : Orderly R (log text) :=
  orderly_modify fun s => s.write_tolerated text

theorem orderly_expand (w : Word) : Orderly R (expand w) :=
  orderly_modifyGet fun s => s.expand_tolerated w

end

-- To unfold it is to run the handler; from here on the lemmas above are used in its place.
attribute [irreducible] Leads

end Handler

open Handler

section

variable {R : Session → Session → Prop} [Tolerant R]

/-! ### Commands on files -/

namespace Files

/-- To change the folder asks of the relation that it tolerates folders within the sandbox. -/
theorem cd_orderly
    (enters : ∀ {s : Session} {folder : Path}, folder.isWithin s.workDir = true →
      R s (s.enter folder))
    (negated : Bool) (arguments : List String) : Orderly R (cd negated arguments) := by
  unfold cd
  split
  · refine orderly_get_bind fun s => ?_
    dsimp only
    split
    · exact orderly_failed _ s
    · next inside =>
      split
      · exact orderly_failed _ s
      · exact orderlyIn_of_ok rfl (enters (by simpa using inside))
  · exact orderly_usage _ _

theorem chmod_orderly (negated : Bool) (arguments : List String) :
    Orderly R (chmod negated arguments) := by
  unfold chmod
  split
  · split
    · exact orderly_misused _
    · exact orderly_each (fun path => orderly_bind (orderly_resolve path) fun _ =>
        orderly_tryHost fun h => h.setMode_grows _ _) _
  · exact orderly_usage _ _

theorem copyOne_orderly (destination : String) (target : Path) (isFolder : Bool)
    (source : String) : Orderly R (copyOne destination target isFolder source) := by
  unfold copyOne
  dsimp only
  split
  · exact orderly_bind (orderly_textOfFile _) fun _ => orderly_tryHost fun h => h.write_grows _ _
  · exact orderly_bind (orderly_resolve _) fun _ => orderly_tryHost fun h => h.copy_grows _ _

theorem cp_orderly (negated : Bool) (arguments : List String) :
    Orderly R (cp negated arguments) := by
  unfold cp
  split
  · refine orderly_bind (orderly_resolve _) fun target => ?_
    refine orderly_bind (orderly_ofHost _) fun isFolder => ?_
    split
    · exact orderly_failed _
    · exact orderly_each (copyOne_orderly _ target isFolder) _
  · exact orderly_usage _ _

theorem requireFile_orderly (readOnly : Bool) (name : String) :
    Orderly R (requireFile readOnly name) := by
  refine orderly_bind (orderly_resolve _) fun path => ?_
  refine orderly_bind (orderly_ofHost _) fun found => ?_
  split
  · exact orderly_failed _
  · split
    · exact orderly_failed _
    · exact orderly_pure ()

theorem exists_orderly (negated : Bool) (arguments : List String) :
    Orderly R («exists» negated arguments) := by
  refine orderly_bind (orderly_usage _ _) fun _ => ?_
  split
  · refine orderly_get_bind fun s => ?_
    split
    · exact orderly_log _ s
    · exact orderly_failed _ s
  · exact orderly_each (requireFile_orderly _) _

theorem mkdir_orderly (negated : Bool) (arguments : List String) :
    Orderly R (mkdir negated arguments) := by
  refine orderly_bind (orderly_usage _ _) fun _ => orderly_each (fun dir => ?_) _
  exact orderly_bind (orderly_resolve dir) fun _ => orderly_tryHost fun h => h.makeFolders_grows _

theorem mv_orderly (negated : Bool) (arguments : List String) :
    Orderly R (mv negated arguments) := by
  unfold mv
  split
  · exact orderly_bind (orderly_resolve _) fun _ => orderly_bind (orderly_resolve _) fun _ =>
      orderly_tryHost fun h => h.move_grows _ _
  · exact orderly_usage _ _

theorem removeOne_orderly (name : String) : Orderly R (removeOne name) := by
  refine orderly_bind (orderly_resolve _) fun path => ?_
  refine orderly_bind (orderly_onHost fun h => h.removeAll_grows path) fun result => ?_
  split
  · exact orderly_pure ()
  · exact orderly_pure ()
  · exact orderly_failed _

theorem rm_orderly (negated : Bool) (arguments : List String) :
    Orderly R (rm negated arguments) :=
  orderly_bind (orderly_usage _ _) fun _ => orderly_each removeOne_orderly _

theorem unquoteOne_orderly (name : String) : Orderly R (unquoteOne name) := by
  refine orderly_bind (orderly_textOfFile _) fun text => ?_
  split
  · exact orderly_failed _
  · exact orderly_bind (orderly_resolve _) fun _ => orderly_tryHost fun h => h.write_grows _ _

theorem unquote_orderly (negated : Bool) (arguments : List String) :
    Orderly R (unquote negated arguments) :=
  orderly_bind (orderly_usage _ _) fun _ => orderly_each unquoteOne_orderly _

end Files

/-! ### Commands on variables -/

namespace Variables

theorem envOne_orderly (argument : String) : Orderly R (envOne argument) := by
  unfold envOne
  split
  · exact orderly_modify fun s => s.setVariable_tolerated _ _
  · exact orderly_get_bind fun s => orderly_log _ s

theorem env_orderly (negated : Bool) (arguments : List String) :
    Orderly R (env negated arguments) := by
  unfold env
  split
  · exact orderly_get_bind fun s => orderly_log _ s
  · exact orderly_each envOne_orderly _

end Variables

end

/-! ### Commands on programs -/

namespace Programs

section

variable {R : Session → Session → Prop} [StreamTolerant R]

theorem stdin_orderly (negated : Bool) (arguments : List String) :
    Orderly R (stdin negated arguments) := by
  unfold stdin
  split
  · have keep (data : Bytes) :
        Orderly R (modify fun s : Session => { s with stdin := some data } : Handler Unit) :=
      orderly_modify fun s => StreamTolerant.stdin s _
    split
    · exact orderly_bind (orderly_textOfFile _) fun _ => orderly_bind (orderly_pure _) keep
    · refine orderly_bind (orderly_resolve _) fun path => ?_
      refine orderly_bind (orderly_ofHost _) fun found => ?_
      split
      · exact orderly_bind (orderly_pure _) keep
      · exact orderly_bind (orderly_failed _) keep
  · exact orderly_usage _ _

theorem launch_orderly (arguments : List String) : Orderly R (launch arguments) :=
  orderly_modifyGet fun s => StreamTolerant.stdin s none

/-- To start a job adds to the jobs of a session, which the relation has to tolerate. -/
theorem execBackground_orderly (tolerant : JobTolerant R) (l : Launch) (name : Option String) :
    Orderly R (execBackground l name) := by
  have start (s : Session) : Orderly R
      (do
        let job ← tryHost JobFault.interrupt (Job.start l name s.expectation)
        modify fun s => { s with jobs := s.jobs ++ [job], isDeferred := true } :
          Handler Unit) := by
    refine orderly_bind (orderly_tryJob Job.start_timely fun h => Job.start_grows h l name _)
      fun job => orderly_modify fun s => ?_
    exact trans_of R (tolerant.jobs s (s.jobs ++ [job])) (tolerant.deferred _)
  refine orderly_get_bind fun s => ?_
  split
  · split
    · exact orderly_bind (orderly_misused _) (fun _ => start s) s
    · exact start s s
  · exact start s s

theorem execForeground_orderly (l : Launch) (label : String) :
    Orderly R (execForeground l label) := by
  refine orderly_get_bind fun s => ?_
  have ran : Orderly R (tryHost JobFault.interrupt fun h => h.runForeground l s.deadline) :=
    orderly_tryJob Host.runForeground_error fun h => h.runForeground_grows l _
  refine orderly_bind ran (fun output => ?_) s
  refine orderly_bind (orderly_modify fun s => ?_) fun _ => ?_
  · exact trans_of R (s.writeOutput_tolerated _ _) (Session.setOutput_tolerated _ _ _)
  · split
    · exact orderly_pure ()
    · exact orderly_failed _

theorem exec_orderly (tolerant : JobTolerant R) (negated : Bool) (arguments : List String) :
    Orderly R (exec negated arguments) := by
  unfold exec
  dsimp only
  refine orderly_bind (orderly_usage _ _) fun _ => orderly_get_bind fun s => ?_
  refine orderly_bind (launch_orderly _) (fun l => ?_) s
  split
  · exact execBackground_orderly tolerant l _
  · exact execForeground_orderly l _

theorem takeJobs_orderly (tolerant : JobTolerant R) (name : Option String) :
    Orderly R (takeJobs name) := by
  refine orderly_get_bind fun s => ?_
  split
  · exact orderlyIn_bind (orderlyIn_set (tolerant.jobs s _)) fun _ t _ => orderly_pure _ t
  · split
    · exact orderly_fail _ s
    · exact orderlyIn_bind (orderlyIn_set (tolerant.jobs s _)) fun _ t _ => orderly_pure _ t

theorem waitLimit_orderly : Orderly R waitLimit := by
  refine orderly_get_bind fun s => ?_
  split
  · exact orderly_pure _ s
  · exact orderly_bind (orderly_onHost Host.time_grows) (fun _ => orderly_pure _) s

/-- Waiting puts back the jobs that have not ended, which a relation has to tolerate. -/
theorem waitEach_orderly (tolerant : JobTolerant R) (acc : Gathered) (jobs : List Job) :
    Orderly R (waitEach acc jobs) := by
  induction jobs generalizing acc with
  | nil => exact orderly_pure acc
  | cons job rest ih =>
    unfold waitEach
    refine orderly_bind waitLimit_orderly fun limit s => ?_
    refine orderlyIn_bind (orderly_onHost ?_ s) fun ended t ran => ?_
    · exact fun h => job.wait_grows h limit
    dsimp only
    split
    · next fault failed =>
      have timely : fault.Timely := by
        rw [onHost_run, EStateM.Result.ok.injEq] at ran
        have waited : (job.wait limit s.host).1 = .error fault :=
          (congrArg Prod.fst ran.1).trans failed
        exact Job.wait_timely (Prod.ext waited rfl)
      exact orderly_bind (orderly_modify fun s => tolerant.jobs s _)
        (fun _ => orderly_throw timely.interrupt_ne) t
    · refine orderly_bind (orderly_log _) (fun _ => ?_) t
      exact orderly_bind (orderly_modify fun s => s.writeOutput_tolerated _ _) fun _ => ih _

theorem wait_orderly (tolerant : JobTolerant R) (negated : Bool) (arguments : List String) :
    Orderly R (wait negated arguments) := by
  refine orderly_bind (orderly_usage _ _) fun _ => orderly_bind (takeJobs_orderly tolerant _)
    fun jobs => orderly_bind (waitEach_orderly tolerant _ jobs) fun gathered => ?_
  refine orderly_bind (orderly_modify fun s => s.setOutput_tolerated _ _) fun _ => ?_
  split
  · exact orderly_pure ()
  · exact orderly_failed _

end

section

variable {R : Session → Session → Prop} [Tolerant R]

theorem signalJob_orderly (job : Job) (signal : Signal) : Orderly R (signalJob job signal) :=
  orderly_tryJob Job.signal_timely fun h => job.signal_grows h signal

theorem signalEach_orderly (signal : Signal) (jobs : List Job) :
    Orderly R (signalEach signal jobs) := by
  induction jobs with
  | nil => exact orderly_pure 0
  | cons job rest ih =>
    unfold signalEach
    refine orderly_bind (orderly_onHost fun h => job.isRunning_grows h) fun running => ?_
    split
    · exact orderly_bind (signalJob_orderly job signal) fun _ =>
        orderly_bind ih fun _ => orderly_pure _
    · exact ih

theorem kill_orderly (negated : Bool) (arguments : List String) :
    Orderly R (kill negated arguments) := by
  unfold kill
  split
  · exact orderly_misused _
  · refine orderly_bind (orderly_usage _ _) fun _ => orderly_get_bind fun s => ?_
    split
    · split
      · exact orderly_fail _ s
      · exact signalJob_orderly _ _ s
    · refine orderly_bind (signalEach_orderly _ _) (fun sent => ?_) s
      split
      · exact orderly_failed _
      · exact orderly_pure ()

end

end Programs

section

variable {R : Session → Session → Prop} [Tolerant R]

/-! ### Commands that check texts -/

namespace Matching

/-- An update is tolerated that is made in update mode, of an archive file, and with a text that
holds no separator. -/
theorem update_orderly {c : Comparison} {s : Session} {script : Script} {entry : String}
    (canUpdate : s.canUpdate = true) (golden : c.golden = some entry)
    (clear : Separator.occursIn c.actual.toList = false)
    (set : s.script.setFile? entry (Text.bytesOf c.actual) = some script) :
    OrderlyIn R (update c script) s := by
  unfold update
  rw [golden]
  have put : R s { s with script := script, updates := s.updates ++ [⟨entry, c.actual⟩] } :=
    Tolerant.update (u := ⟨entry, c.actual⟩) canUpdate clear set
  have last (u : Update) : (s.updates ++ [u]).getLast? = some u := List.getLast?_concat
  refine orderlyIn_bind_of_ok rfl put (orderlyIn_bind_of_ok rfl (refl_of R _) ?_)
  refine orderlyIn_bind (orderly_tryHost (fun h => h.write_grows _ _) _) fun _ t wrote => ?_
  obtain ⟨h, written, rfl⟩ := tryHost_eq_ok wrote
  exact orderlyIn_bind_of_ok rfl
    (Tolerant.updated (.intro _ (last ⟨entry, c.actual⟩) written)) (orderly_log _ _)

theorem compareTexts_orderly (negated : Bool) (c : Comparison) :
    Orderly R (compareTexts negated c) := by
  refine orderly_get_bind fun s => ?_
  split
  · exact orderly_failed _ s
  · next refusal =>
    split
    · exact orderly_pure () s
    · next script judged =>
      obtain ⟨differ, canUpdate, set⟩ := Comparison.judge_eq_updated_iff.mp judged
      obtain ⟨entry, golden, set⟩ := Option.bind_eq_some_iff.mp set
      exact update_orderly canUpdate golden
        (Comparison.clear_of_not_refused refusal golden canUpdate differ) set
    · exact orderly_failed _ s

theorem compareFiles_orderly (substitutes negated : Bool) (actualName expectedName : String) :
    Orderly R (compareFiles substitutes negated actualName expectedName) := by
  unfold compareFiles
  refine orderly_bind (orderly_textOfFile _) fun actual => ?_
  refine orderly_bind (orderly_textOfFile _) fun text => ?_
  have rest (expected : String) (golden : Session → Option String) : Orderly R
      (do
        let s ← get
        compareTexts negated ⟨actualName, actual, expectedName, expected, golden s⟩) :=
    orderly_get_bind fun s => compareTexts_orderly negated _ s
  dsimp only
  split
  · exact orderly_bind (orderly_expand _) fun expected => rest expected _
  · exact orderly_bind (orderly_pure _) fun expected => rest expected _

theorem cmp_orderly (negated : Bool) (arguments : List String) :
    Orderly R (cmp negated arguments) := by
  unfold cmp
  split
  · exact compareFiles_orderly _ _ _ _
  · exact orderly_usage _ _

theorem cmpenv_orderly (negated : Bool) (arguments : List String) :
    Orderly R (cmpenv negated arguments) := by
  unfold cmpenv
  split
  · exact compareFiles_orderly _ _ _ _
  · exact orderly_usage _ _

theorem matchPattern_orderly (language : PatternLanguage) (negated : Bool) (count : Option Nat)
    (pattern source text : String) :
    Orderly R (matchPattern language negated count pattern source text) := by
  unfold matchPattern
  split
  · exact orderly_misused _
  · split
    · dsimp only
      split
      · exact orderly_pure ()
      · exact orderly_failed _
    · split
      · split
        · exact orderly_log _
        · exact orderly_pure ()
      · exact orderly_failed _

theorem matchText_orderly (language : PatternLanguage) (negated : Bool) (arguments : List String)
    (source usageText text : String) :
    Orderly R (matchText language negated arguments source usageText text) := by
  unfold matchText
  split
  · exact orderly_misused _
  · dsimp only
    split
    · exact orderly_bind (orderly_misused _) fun _ => matchPattern_orderly _ _ _ _ _ _
    · exact matchPattern_orderly _ _ _ _ _ _
  · exact orderly_usage _ _

theorem stdout_orderly (language : PatternLanguage) (negated : Bool) (arguments : List String) :
    Orderly R (stdout language negated arguments) :=
  orderly_get_bind fun s => matchText_orderly _ _ _ _ _ _ s

theorem stderr_orderly (language : PatternLanguage) (negated : Bool) (arguments : List String) :
    Orderly R (stderr language negated arguments) :=
  orderly_get_bind fun s => matchText_orderly _ _ _ _ _ _ s

theorem grep_orderly (language : PatternLanguage) (negated : Bool) (arguments : List String) :
    Orderly R (grep language negated arguments) := by
  unfold grep
  dsimp only
  split
  · exact orderly_bind (orderly_usage _ _) fun _ => orderly_bind (orderly_textOfFile _) fun _ =>
      matchText_orderly _ _ _ _ _ _
  · exact orderly_usage _ _

end Matching

namespace Registry

/-- All built-in commands are orderly, as long as it does not matter which folder of the sandbox
`cd` enters, what `exec` and `wait` do to the jobs, and what these two and `stdin` do to the
streams. -/
theorem builtin_orderly (language : PatternLanguage) :
    ∀ entry ∈ (builtinWith language).entries,
      (entry.1 = "cd" → ∀ {s : Session} {folder : Path}, folder.isWithin s.workDir = true →
        R s (s.enter folder)) →
      (entry.1 = "exec" ∨ entry.1 = "wait" → JobTolerant R) →
      (entry.1 = "exec" ∨ entry.1 = "stdin" ∨ entry.1 = "wait" → StreamTolerant R) →
      ∀ negated arguments, Orderly R (entry.2.run negated arguments) := by
  simp only [builtinWith, List.forall_mem_cons]
  exact ⟨fun _ _ _ => Matching.cmp_orderly, fun _ _ _ => Matching.cmpenv_orderly,
    fun _ tolerant streams =>
      have := streams (.inl trivial)
      Programs.exec_orderly (tolerant (.inl trivial)),
    fun _ _ _ => Files.exists_orderly, fun _ _ _ => Matching.grep_orderly language,
    fun _ _ _ => Matching.stdout_orderly language, fun _ _ _ => Matching.stderr_orderly language,
    fun enters _ _ => Files.cd_orderly (enters trivial), fun _ _ _ => Files.chmod_orderly,
    fun _ _ _ => Files.cp_orderly, fun _ _ _ => Variables.env_orderly,
    fun _ _ _ => Programs.kill_orderly, fun _ _ _ => Files.mkdir_orderly,
    fun _ _ _ => Files.mv_orderly, fun _ _ _ => Files.rm_orderly,
    fun _ _ _ _ _ => orderly_fail _,
    fun _ _ streams =>
      have := streams (.inr (.inl trivial))
      Programs.stdin_orderly,
    fun _ _ _ _ _ => orderly_fail _, fun _ _ _ => Files.unquote_orderly,
    fun _ tolerant streams =>
      have := streams (.inr (.inr trivial))
      Programs.wait_orderly (tolerant (.inr trivial)),
    fun _ mem => absurd mem List.not_mem_nil⟩

/-- All built-in commands but `exec` and `wait` make nothing but edits. -/
theorem builtin_edits (language : PatternLanguage) :
    ∀ entry ∈ (builtinWith language).entries, entry.1 ≠ "exec" → entry.1 ≠ "wait" →
      ∀ negated arguments, Keeps Edits (entry.2.run negated arguments) := by
  intro entry mem notExec notWait negated arguments
  refine Orderly.keeps (builtin_orderly language entry mem
    (fun _ s folder _ => s.enter_edits folder) ?_ (fun _ => inferInstance) negated arguments)
  rintro (isExec | isWait)
  · exact absurd isExec notExec
  · exact absurd isWait notWait

/-- The built-in commands make nothing but changes, and never give up on the script. -/
theorem builtin_reaches (language : PatternLanguage) :
    ∀ entry ∈ (builtinWith language).entries, ∀ negated arguments,
      Orderly Reaches (entry.2.run negated arguments) :=
  fun entry mem => builtin_orderly language entry mem
    (fun _ s folder _ => (s.enter_edits folder).reaches) (fun _ => Reaches.jobTolerant)
    fun _ => inferInstance

/-- Whatever a built-in command does to a session is made up of the listed changes. -/
theorem builtin_keeps (language : PatternLanguage) :
    ∀ entry ∈ (builtinWith language).entries, ∀ negated arguments,
      Keeps Reaches (entry.2.run negated arguments) :=
  fun entry mem negated arguments => (builtin_reaches language entry mem negated arguments).keeps

end Registry

end

end ScriptSuite
