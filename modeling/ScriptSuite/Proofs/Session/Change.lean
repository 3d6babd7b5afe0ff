import Mathlib.Logic.Relation
import ScriptSuite.Proofs.Host.Growth
import ScriptSuite.Proofs.Script.Revision
import ScriptSuite.Session.Basic

/-!
What commands can do to a session.

A command makes a number of `Change`s and nothing else. So it is not for commands to say
whether an instruction has been run, when the time of a script is up, or which instructions
there are (`Reaches.steady`), and they change the script by updates of its archive alone, all
of which are in the records (`Reaches.revises`). An `Edit` is a change that leaves the jobs
alone. What most commands do leaves the folder of the session alone, too, and the outputs and the
input that it holds for programs: a relation that does not mind any of it is `Tolerant`.
-/

namespace ScriptSuite.Session

/-- A comparison has updated a file: the text that was put into the archive last has been written
to the sandbox, too. -/
inductive Completes : Session → Session → Prop where
  | intro (s : Session) {u : Update} {path : Path} {h : Host} :
      s.updates.getLast? = some u → h.write path (Text.bytesOf u.text) = (.ok (), s.host) →
      Completes s { s with hasUpdated := true }

/-- What a command can change at once. -/
inductive Change : Session → Session → Prop where
  | host (s : Session) (h : Host) : Change s { s with host := h }
  | log (s : Session) (text : String) : Change s { s with log := text }
  | environment (s : Session) (e : Environment) : Change s { s with environment := e }
  | folder (s : Session) (path : Path) : Change s { s with folder := path }
  | jobs (s : Session) (jobs : List Job) : Change s { s with jobs := jobs }
  | output (s : Session) (stdout stderr : String) :
      Change s { s with stdout := stdout, stderr := stderr }
  | stdin (s : Session) (data : Option Bytes) : Change s { s with stdin := data }
  | unique (s : Session) (n : Nat) : Change s { s with unique := n }
  | deferred (s : Session) : Change s { s with isDeferred := true }
  /-- A text without a separator is put into a file of the archive. -/
  | update (s : Session) {u : Update} {script : Script} :
      s.canUpdate = true → Separator.occursIn u.text.toList = false →
      s.script.setFile? u.name (Text.bytesOf u.text) = some script →
      Change s { s with script := script, updates := s.updates ++ [u] }
  | updated {s t : Session} : Completes s t → Change s t

/-- A session that changes lead to. -/
def Reaches : Session → Session → Prop :=
  Relation.ReflTransGen Change

namespace Reaches

theorem refl (s : Session) : Reaches s s :=
  Relation.ReflTransGen.refl

theorem trans {s t r : Session} (h : Reaches s t) (h' : Reaches t r) : Reaches s r :=
  Relation.ReflTransGen.trans h h'

theorem single {s t : Session} (h : Change s t) : Reaches s t :=
  Relation.ReflTransGen.single h

end Reaches

instance : IsPreorder Session Reaches :=
  inferInstanceAs (IsPreorder Session (Relation.ReflTransGen Change))

/-- A change that leaves the list of jobs alone, and by which no process is forgotten. -/
structure Edit (s t : Session) : Prop where
  change : Change s t
  jobs : t.jobs = s.jobs
  grows : s.host.Grows t.host

/-- A session that edits lead to. -/
def Edits : Session → Session → Prop :=
  Relation.ReflTransGen Edit

namespace Edits

variable {s t r : Session}

theorem refl (s : Session) : Edits s s :=
  Relation.ReflTransGen.refl

theorem trans (h : Edits s t) (h' : Edits t r) : Edits s r :=
  Relation.ReflTransGen.trans h h'

/-- A change of something other than the jobs and the host. -/
theorem single (change : Change s t) (jobs : t.jobs = s.jobs) (host : t.host = s.host) :
    Edits s t :=
  Relation.ReflTransGen.single ⟨change, jobs, host ▸ .refl s.host⟩

theorem host {h : Host} (grows : s.host.Grows h) : Edits s { s with host := h } :=
  Relation.ReflTransGen.single ⟨.host s h, rfl, grows⟩

theorem reaches (h : Edits s t) : Reaches s t :=
  h.lift id fun _ _ edit => edit.change

theorem jobs (h : Edits s t) : t.jobs = s.jobs := by
  induction h with
  | refl => rfl
  | tail _ edit ih => exact edit.jobs.trans ih

theorem grows (h : Edits s t) : s.host.Grows t.host := by
  induction h with
  | refl => exact .refl s.host
  | tail _ edit ih => exact ih.trans edit.grows

end Edits

instance : IsPreorder Session Edits :=
  inferInstanceAs (IsPreorder Session (Relation.ReflTransGen Edit))

/-! ### What most commands do -/

/-- A relation between sessions that does not mind what most commands do. They leave the folder
of the session, its jobs and its streams alone. -/
class Tolerant (R : Session → Session → Prop) : Prop extends IsPreorder Session R where
  host {s : Session} {h : Host} : s.host.Grows h → R s { s with host := h }
  log (s : Session) (text : String) : R s { s with log := text }
  environment (s : Session) (e : Environment) : R s { s with environment := e }
  unique (s : Session) (n : Nat) : R s { s with unique := n }
  update {s : Session} {u : Update} {script : Script} :
    s.canUpdate = true → Separator.occursIn u.text.toList = false →
    s.script.setFile? u.name (Text.bytesOf u.text) = some script →
    R s { s with script := script, updates := s.updates ++ [u] }
  updated {s t : Session} : Completes s t → R s t

/-- A relation between sessions that besides does not mind what becomes of the streams: the
outputs of programs, and the input for the next one. -/
class StreamTolerant (R : Session → Session → Prop) : Prop extends Tolerant R where
  output (s : Session) (stdout stderr : String) :
    R s { s with stdout := stdout, stderr := stderr }
  stdin (s : Session) (data : Option Bytes) : R s { s with stdin := data }

/-- A relation between sessions that does not mind what becomes of the jobs. -/
structure JobTolerant (R : Session → Session → Prop) : Prop where
  jobs : ∀ (s : Session) (jobs : List Job), R s { s with jobs := jobs }
  deferred : ∀ s : Session, R s { s with isDeferred := true }

instance : StreamTolerant Edits where
  host grows := .host grows
  log s text := .single (.log s text) rfl rfl
  environment s e := .single (.environment s e) rfl rfl
  output s stdout stderr := .single (.output s stdout stderr) rfl rfl
  stdin s data := .single (.stdin s data) rfl rfl
  unique s n := .single (.unique s n) rfl rfl
  update canUpdate clear set := .single (.update _ canUpdate clear set) rfl rfl
  updated completes := by
    have change := Change.updated completes
    cases completes
    exact .single change rfl rfl

instance : StreamTolerant Reaches where
  host _ := .single (.host _ _)
  log s text := .single (.log s text)
  environment s e := .single (.environment s e)
  output s stdout stderr := .single (.output s stdout stderr)
  stdin s data := .single (.stdin s data)
  unique s n := .single (.unique s n)
  update canUpdate clear set := .single (.update _ canUpdate clear set)
  updated completes := .single (.updated completes)

theorem Reaches.jobTolerant : JobTolerant Reaches where
  jobs s jobs := .single (.jobs s jobs)
  deferred s := .single (.deferred s)

section

variable {R : Session → Session → Prop} [Tolerant R]

theorem write_tolerated (s : Session) (text : String) : R s (s.write text) :=
  Tolerant.log s _

theorem writeOutput_tolerated (s : Session) (stdout stderr : String) :
    R s (s.writeOutput stdout stderr) := by
  have part (s : Session) (label text : String) :
      R s (if text.isEmpty then s
        else ({ s with log := s.log ++ "[" ++ label ++ "]\n" }).write text) := by
    split
    · exact refl_of R s
    · exact trans_of R (Tolerant.log s _) (write_tolerated _ text)
  exact trans_of R (part s "stdout" stdout) (part _ "stderr" stderr)

theorem setVariable_tolerated (s : Session) (name value : String) :
    R s (s.setVariable name value) :=
  Tolerant.environment s _

end

theorem setOutput_tolerated {R : Session → Session → Prop} [StreamTolerant R] (s : Session)
    (stdout stderr : String) : R s (s.setOutput stdout stderr) :=
  StreamTolerant.output s _ _

theorem enter_edits (s : Session) (folder : Path) : Edits s (s.enter folder) :=
  Edits.trans (setVariable_tolerated s _ _) (.single (.folder _ folder) rfl rfl)

/-! ### Substitution -/

theorem lookup_unique (name : String) (s : Session) :
    ∃ n, ((lookup name).run s).2 = { s with unique := n } := by
  unfold lookup
  simp only [StateT.run_bind, StateT.run_get, pure_bind]
  split <;> exact ⟨_, rfl⟩

theorem expandTokens_unique (tokens : List Variable.Token) (s : Session) :
    ∃ n, ((Variable.expandTokens lookup tokens).run s).2 = { s with unique := n } := by
  induction tokens generalizing s with
  | nil => exact ⟨s.unique, rfl⟩
  | cons token rest ih =>
    cases token with
    | char c => exact ih s
    | reference name =>
      obtain ⟨n, first⟩ := lookup_unique (String.ofList name) s
      obtain ⟨m, others⟩ := ih ((lookup (String.ofList name)).run s).2
      exact ⟨m, others.trans (by rw [first])⟩

theorem expandPieces_unique (pieces : List Piece) (s : Session) :
    ∃ n, ((Word.expandPieces lookup pieces).run s).2 = { s with unique := n } := by
  induction pieces generalizing s with
  | nil => exact ⟨s.unique, rfl⟩
  | cons piece rest ih =>
    cases piece with
    | literal text => exact ih s
    | subject text =>
      obtain ⟨n, first⟩ := expandTokens_unique (Variable.tokens text) s
      obtain ⟨m, others⟩ := ih ((Variable.expandTokens lookup (Variable.tokens text)).run s).2
      exact ⟨m, others.trans (by rw [first])⟩

/-- Putting values in place of variables can do no more than give out unique names. -/
theorem expand_unique (w : Word) (s : Session) :
    ∃ n, ((expand w).run s).2 = { s with unique := n } :=
  expandPieces_unique w.pieces s

theorem expandAll_unique (words : List Word) (s : Session) :
    ∃ n, ((expandAll words).run s).2 = { s with unique := n } := by
  induction words generalizing s with
  | nil => exact ⟨s.unique, rfl⟩
  | cons w rest ih =>
    obtain ⟨n, first⟩ := expand_unique w s
    obtain ⟨m, others⟩ := ih ((expand w).run s).2
    exact ⟨m, others.trans (by rw [first])⟩

section

variable {R : Session → Session → Prop} [Tolerant R]

/-- To put variables in changes nothing but the number of unique names. -/
theorem expand_tolerated (w : Word) (s : Session) : R s ((expand w).run s).2 := by
  obtain ⟨n, expanded⟩ := expand_unique w s
  exact expanded ▸ Tolerant.unique s n

theorem expandAll_tolerated (words : List Word) (s : Session) :
    R s ((expandAll words).run s).2 := by
  obtain ⟨n, expanded⟩ := expandAll_unique words s
  exact expanded ▸ Tolerant.unique s n

end

/-! ### What no command changes -/

/-- What the run of a script relies on: commands neither say whether an instruction has been
run, nor when the time is up, nor which instructions there are. -/
structure Steady (s t : Session) : Prop where
  started : t.hasStarted = s.hasStarted
  deadline : t.deadline = s.deadline
  instructions : t.script.instructions = s.script.instructions

theorem Steady.refl (s : Session) : Steady s s :=
  ⟨rfl, rfl, rfl⟩

theorem Steady.trans {s t r : Session} (h : Steady s t) (h' : Steady t r) : Steady s r :=
  ⟨h'.started.trans h.started, h'.deadline.trans h.deadline,
    h'.instructions.trans h.instructions⟩

/-- The script has changed by updates of its archive, and they are in the records. -/
def Revises (s t : Session) : Prop :=
  ∃ us, t.updates = s.updates ++ us ∧ s.script.Revised us t.script

theorem Revises.of_eq {s t : Session} (updates : t.updates = s.updates)
    (script : t.script = s.script) : Revises s t :=
  ⟨[], by rw [updates, List.append_nil], script ▸ .refl⟩

theorem Revises.trans {s t r : Session} (h : Revises s t) (h' : Revises t r) :
    Revises s r := by
  obtain ⟨us, updates, revised⟩ := h
  obtain ⟨vs, updates', revised'⟩ := h'
  exact ⟨us ++ vs, by rw [updates', updates, List.append_assoc], revised.trans revised'⟩

theorem Revises.instructions {s t : Session} (h : Revises s t) :
    t.script.instructions = s.script.instructions := by
  obtain ⟨us, -, revised⟩ := h
  exact revised.instructions

theorem Change.revises {s t : Session} (h : Change s t) : Revises s t := by
  cases h with
  | update _ clear set => exact ⟨[_], rfl, .update .refl clear set⟩
  | updated completes =>
    cases completes
    exact .of_eq rfl rfl
  | _ => exact .of_eq rfl rfl

theorem Change.steady {s t : Session} (h : Change s t) : Steady s t := by
  have instructions := h.revises.instructions
  cases h with
  | updated completes =>
    cases completes
    exact ⟨rfl, rfl, instructions⟩
  | _ => exact ⟨rfl, rfl, instructions⟩

/-- Whatever a session goes through, its archive changes by updates alone. -/
theorem Reaches.revises {s t : Session} (h : Reaches s t) : Revises s t := by
  induction h with
  | refl => exact .of_eq rfl rfl
  | tail _ change ih => exact ih.trans change.revises

/-- What a session goes through changes neither its deadline nor its instructions, nor whether a
command has been run. -/
theorem Reaches.steady {s t : Session} (h : Reaches s t) : Steady s t := by
  induction h with
  | refl => exact .refl s
  | tail _ change ih => exact ih.trans change.steady

/-! ### Sessions without programs -/

/-- A host that has some files and no programs, and whose clock stands still. -/
def hostOf (files : Listing) : Host where
  files := .folder 0o755 files
  clock := .steady default
  processes := []
  pipes := []
  environment := []
  home := []
  executable := ⟨"/bin/suite"⟩
  load := fun _ => .error .noEntry
  names := 0
  patience := 0
  finishing := List.range
  journal := []

/-- A session in the root folder of such a host, with no script. -/
def ofFiles (files : Listing) : Session :=
  start ⟨[], [], ""⟩ ⟨"/"⟩ ⟨"/tmp"⟩
    { environment := [], canUpdate := false, deadline := none, waitTimeout := .ofSeconds 10,
      teardownGrace := .ofSeconds 5, programs := [] } (hostOf files)

end ScriptSuite.Session
