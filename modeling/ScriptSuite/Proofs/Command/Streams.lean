import ScriptSuite.Proofs.Command.Jobs

/-!
What commands do to the streams of a session.

A session keeps the outputs of a program and an input for the next one. `exec` uses the input up
for the program that it launches, and keeps the outputs of a program in the foreground that has
ended (`exec_streams`); `wait` keeps those of the jobs it waits for if all of them have ended
(`wait_streams`); `stdin` replaces the input (`stdin_cases`). No other built-in command changes any
of it (`builtin_sameStreams`).
-/

namespace ScriptSuite

open Handler

namespace Session

/-- The outputs that a session keeps. -/
def outputs (s : Session) : String × String :=
  (s.stdout, s.stderr)

/-- The outputs are as before, and so is the input for the next program. -/
structure SameStreams (s t : Session) : Prop where
  outputs : t.outputs = s.outputs
  stdin : t.stdin = s.stdin

theorem SameStreams.trans {s t r : Session} (h : SameStreams s t) (h' : SameStreams t r) :
    SameStreams s r :=
  ⟨h'.outputs.trans h.outputs, h'.stdin.trans h.stdin⟩

instance : IsPreorder Session SameStreams where
  refl _ := ⟨rfl, rfl⟩
  trans _ _ _ := SameStreams.trans

instance : Tolerant SameStreams where
  host _ := ⟨rfl, rfl⟩
  log _ _ := ⟨rfl, rfl⟩
  environment _ _ := ⟨rfl, rfl⟩
  unique _ _ := ⟨rfl, rfl⟩
  update _ _ _ := ⟨rfl, rfl⟩
  updated completes := by
    cases completes
    exact ⟨rfl, rfl⟩

theorem SameStreams.jobTolerant : JobTolerant SameStreams where
  jobs _ _ := ⟨rfl, rfl⟩
  deferred _ := ⟨rfl, rfl⟩

end Session

open Session (SameStreams)

/-- All built-in commands but `exec`, `stdin` and `wait` leave the streams as they are. -/
theorem Registry.builtin_sameStreams (language : PatternLanguage) :
    ∀ entry ∈ (builtinWith language).entries,
      entry.1 ≠ "exec" → entry.1 ≠ "stdin" → entry.1 ≠ "wait" →
      ∀ negated arguments, Keeps SameStreams (entry.2.run negated arguments) := by
  intro entry mem notExec notStdin notWait negated arguments
  apply Orderly.keeps
  apply builtin_orderly language entry mem
  · intro _ s folder _
    exact ⟨rfl, rfl⟩
  · intro _
    exact SameStreams.jobTolerant
  · rintro (isExec | isStdin | isWait)
    · exact absurd isExec notExec
    · exact absurd isStdin notStdin
    · exact absurd isWait notWait

namespace Programs

variable {arguments line : List String} {ground : Ground} {s : Session}

/-! ### The input of the next program -/

/-- What `stdin` holds ready for the next program: an output that the session keeps, or the bytes
of a file. -/
inductive Payload (s : Session) : List String → Bytes → Prop where
  | output {name text : String} : Session.isOutputName name = true →
      s.textOfFile name = .ok text → Payload s [name] (Text.bytesOf text)
  | file {name : String} {data : Bytes} : Session.isOutputName name = false →
      s.host.read (s.resolve name) = .ok data → Payload s [name] data

/-- `stdin` replaces the input, or fails and leaves everything as it is. -/
theorem stdin_cases (negated : Bool) (arguments : List String) (s : Session) :
    (∃ data, Payload s arguments data ∧
      (stdin negated arguments).run s = .ok () { s with stdin := some data }) ∨
    (∀ data, ¬ Payload s arguments data) ∧
      ∃ interrupt, (stdin negated arguments).run s = .error interrupt s := by
  match arguments with
  | [] => exact .inr ⟨nofun, _, rfl⟩
  | _ :: _ :: _ => exact .inr ⟨nofun, _, rfl⟩
  | [name] =>
    cases isOutput : Session.isOutputName name with
    | true =>
      -- an output is always there to be read, even if no program has run
      obtain ⟨text, found⟩ : ∃ text, s.textOfFile name = .ok text := by
        rw [Session.isOutputName, Bool.or_eq_true, beq_iff_eq, beq_iff_eq] at isOutput
        rcases isOutput with rfl | rfl
        · exact ⟨s.stdout, rfl⟩
        · exact ⟨s.stderr, rfl⟩
      have got : (textOfFile name).run s = .ok text s := by
        rw [textOfFile, run_get_bind, found]
        rfl
      refine .inl ⟨Text.bytesOf text, .output isOutput found, ?_⟩
      simp only [stdin, isOutput, if_true]
      rw [run_bind_of_ok got]
      rfl
    | false =>
      have resolved : (resolve name).run s = .ok (s.resolve name) s := rfl
      have looked : (ofHost fun h => h.read (s.resolve name)).run s =
          .ok (s.host.read (s.resolve name)) s := rfl
      simp only [stdin, isOutput, Bool.false_eq_true, if_false]
      rw [run_bind_of_ok resolved, run_bind_of_ok looked]
      cases found : s.host.read (s.resolve name) with
      | ok data => exact .inl ⟨data, .file isOutput found, rfl⟩
      | error err =>
        refine .inr ⟨?_, .error (.failed ("stdin " ++ name ++ ": " ++ err.message)), rfl⟩
        rintro data (⟨isOutput', -⟩ | ⟨-, found'⟩)
        · cases isOutput.symm.trans isOutput'
        · cases found.symm.trans found'

/-- To set the input leaves the outputs of the last program as they are. -/
theorem stdin_outputs (negated : Bool) (arguments : List String) (s : Session) :
    (sessionAfter ((stdin negated arguments).run s)).outputs = s.outputs := by
  rcases stdin_cases negated arguments s with ⟨data, -, fed⟩ | ⟨-, interrupt, failed⟩
  · rw [fed]
    rfl
  · rw [failed]
    rfl

/-! ### Programs that are launched -/

/-- What a launch leaves of the host: a program in the foreground has run, and one in the
background has been started unless its name is taken. -/
def hostAfter (ground : Ground) (l : Launch) (s : Session) : Host :=
  match ground with
  | .foreground => (s.host.runForeground l s.deadline).2
  | .background name => if name.any (hasJob s) then s.host else (s.host.launch l).2

/-- The arguments make `exec` run a program in the foreground, which ends with the output. -/
def Exits (arguments : List String) (s : Session) (output : Output) : Prop :=
  ∃ line h, splitMark arguments = (line, .foreground) ∧ line ≠ [] ∧
    s.host.runForeground (launchOf s line) s.deadline = (.ok output, h)

theorem host_start (l : Launch) (name : Option String) (expectation : Expectation) (h : Host) :
    (Job.start l name expectation h).2 = (h.launch l).2 := by
  rw [Job.start]
  cases h.launch l with
  | mk result h' => cases result <;> rfl

/-- A program that is started in the background leaves the streams as they are. -/
theorem execBackground_streams (l : Launch) (name : Option String) (s : Session) :
    SameStreams s (sessionAfter ((execBackground l name).run s)) ∧
      (sessionAfter ((execBackground l name).run s)).host = hostAfter (.background name) l s := by
  rw [execBackground_run, hostAfter]
  split
  · exact ⟨⟨rfl, rfl⟩, rfl⟩
  · rw [← host_start l name s.expectation]
    split
    · next started =>
      rw [started]
      exact ⟨⟨rfl, rfl⟩, rfl⟩
    · next failed =>
      rw [failed]
      exact ⟨⟨rfl, rfl⟩, rfl⟩

/-- A program in the foreground leaves its outputs if it ends. -/
theorem execForeground_streams (l : Launch) (label : String) (s : Session) :
    let t := sessionAfter ((execForeground l label).run s)
    t.stdin = s.stdin ∧ t.host = hostAfter .foreground l s ∧
      t.outputs = match (s.host.runForeground l s.deadline).1 with
        | .ok output => (output.stdout, output.stderr)
        | .error _ => s.outputs := by
  rw [hostAfter]
  cases ran : s.host.runForeground l s.deadline with
  | mk result h =>
    cases result with
    | ok output =>
      obtain ⟨log, answers⟩ := execForeground_run ran label
      rw [answers]
      split <;> exact ⟨rfl, rfl, rfl⟩
    | error fault =>
      have failed := tryHost_run JobFault.interrupt (fun h => h.runForeground l s.deadline) s
      rw [ran] at failed
      rw [execForeground, run_get_bind, run_bind_of_error failed]
      exact ⟨rfl, rfl, rfl⟩

/-- `exec` uses up the input, and keeps the outputs of a program in the foreground that ends. -/
theorem exec_streams (split : splitMark arguments = (line, ground)) (ne : line ≠ [])
    (negated : Bool) :
    let t := sessionAfter ((exec negated arguments).run s)
    t.stdin = none ∧ t.host = hostAfter ground (launchOf s line) s ∧
      ((∃ output, Exits arguments s output ∧ t.outputs = (output.stdout, output.stderr)) ∨
        (∀ output, ¬ Exits arguments s output) ∧ t.outputs = s.outputs) := by
  rw [exec_run negated split ne]
  cases ground with
  | background name =>
    obtain ⟨same, host⟩ := execBackground_streams (launchOf s line) name { s with stdin := none }
    refine ⟨same.stdin, host, .inr ⟨?_, same.outputs⟩⟩
    rintro output ⟨line', h, split', -⟩
    cases split.symm.trans split'
  | foreground =>
    obtain ⟨stdin, host, outputs⟩ :=
      execForeground_streams (launchOf s line) (line.headD "") { s with stdin := none }
    refine ⟨stdin, host, ?_⟩
    cases ran : s.host.runForeground (launchOf s line) s.deadline with
    | mk result h =>
      rw [ran] at outputs
      cases result with
      | ok output => exact .inl ⟨output, ⟨line, h, split, ne, ran⟩, outputs⟩
      | error fault =>
        refine .inr ⟨?_, outputs⟩
        rintro output ⟨line', h', split', -, ran'⟩
        cases split.symm.trans split'
        cases ran.symm.trans ran'

/-- Without a program to launch, `exec` leaves everything as it is. -/
theorem exec_unused (split : splitMark arguments = ([], ground)) (negated : Bool) :
    sessionAfter ((exec negated arguments).run s) = s := by
  rw [exec, split]
  rfl

/-- `exec` keeps the outputs of a program in the foreground that ends, and no others. -/
theorem exec_outputs (negated : Bool) (arguments : List String) (s : Session) :
    let t := sessionAfter ((exec negated arguments).run s)
    (∃ output, Exits arguments s output ∧ t.outputs = (output.stdout, output.stderr)) ∨
      (∀ output, ¬ Exits arguments s output) ∧ t.outputs = s.outputs := by
  cases split : splitMark arguments with
  | mk line ground =>
    by_cases empty : line = []
    · rw [exec_unused (empty ▸ split)]
      refine .inr ⟨?_, rfl⟩
      rintro output ⟨line', h, split', ne, -⟩
      cases split.symm.trans split'
      exact ne empty
    · exact (exec_streams split empty negated).2.2

/-! ### Jobs that are waited for -/

/-- The arguments make `wait` collect the outputs of jobs, and all of them that it waits for have
ended. -/
def Collects (arguments : List String) (s : Session) (collected : List (Job × Output)) : Prop :=
  ∃ jobs others, awaited? arguments s = some (jobs, others) ∧
    (collect s.deadline s.waitTimeout jobs s.host).left = none ∧
    collected = (collect s.deadline s.waitTimeout jobs s.host).outputs

/-- Outputs one after another. -/
def joined (collected : List (Job × Output)) : String × String :=
  (String.join (collected.map fun ended => ended.2.stdout),
    String.join (collected.map fun ended => ended.2.stderr))

/-- A wait that collects all of its jobs sets the outputs; one that is cut short leaves those of
before. -/
theorem outputs_answer (c : Collection) (others : List Job) (log : String) (s : Session) :
    (sessionAfter (c.answer others log s)).stdin = s.stdin ∧
      (sessionAfter (c.answer others log s)).outputs =
        if c.left = none then joined c.outputs else s.outputs := by
  rw [Collection.answer]
  cases left : c.left with
  | some left => exact ⟨rfl, rfl⟩
  | none =>
    have gathered : ((⟨"", "", []⟩ : Gathered).extend c.outputs).stdout = (joined c.outputs).1 ∧
        ((⟨"", "", []⟩ : Gathered).extend c.outputs).stderr = (joined c.outputs).2 := by
      simp [Gathered.extend, joined]
    simp only [gathered]
    split <;> exact ⟨rfl, rfl⟩

/-- `wait` keeps the outputs of the jobs if all of them have ended, whatever was expected. -/
theorem wait_streams (negated : Bool) (arguments : List String) (s : Session) :
    let t := sessionAfter ((wait negated arguments).run s)
    t.stdin = s.stdin ∧
      ((∃ collected, Collects arguments s collected ∧ t.outputs = joined collected) ∨
        (∀ collected, ¬ Collects arguments s collected) ∧ t.outputs = s.outputs) := by
  cases taken : awaited? arguments s with
  | none =>
    obtain ⟨text, refused⟩ := wait_refused taken negated
    rw [refused]
    refine ⟨rfl, .inr ⟨?_, rfl⟩⟩
    rintro collected ⟨jobs, others, taken', -⟩
    cases taken.symm.trans taken'
  | some parts =>
    obtain ⟨jobs, others⟩ := parts
    obtain ⟨log, answers⟩ := wait_run taken negated
    obtain ⟨stdin, outputs⟩ :=
      outputs_answer (collect s.deadline s.waitTimeout jobs s.host) others log s
    rw [answers]
    refine ⟨stdin, ?_⟩
    rw [outputs]
    split
    · next all => exact .inl ⟨_, ⟨jobs, others, taken, all, rfl⟩, rfl⟩
    · next more =>
      refine .inr ⟨?_, rfl⟩
      rintro collected ⟨jobs', others', taken', all, -⟩
      cases taken.symm.trans taken'
      exact more all

end Programs
end ScriptSuite
