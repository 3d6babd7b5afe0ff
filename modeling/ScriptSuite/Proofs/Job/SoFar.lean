import ScriptSuite.Proofs.Host.Pouring
import ScriptSuite.Proofs.Job.History
import ScriptSuite.Proofs.Text.Cutting

/-!
What a job has written so far.

The bytes that a job has written at some point of a history are the first of those that it has
written later, and of those that a wait reads. Of the texts that they are read as this holds unless
the bytes end within a character (`JobTable.soFar_isPrefix_iff`): the part of the character that is
there is read as a replacement character, which the job never wrote. What a stream is read as when
all of it is there does not depend on the chunks in which it has been read.
-/

namespace ScriptSuite

open Text (SplitsChar decodeLossy_isPrefix_iff stringOf)

/-- The stream of a process on its host. -/
def Process.pipe (p : Process) : Stream → PipeId
  | .stdout => p.stdout
  | .stderr => p.stderr

/-- What has been read of a stream. -/
def Output.text (o : Output) : Stream → String
  | .stdout => o.stdout
  | .stderr => o.stderr

/-- A snapshot is the start of a later one unless a character is cut. -/
theorem stringOf_isPrefix_iff {early late : Bytes} (goesOn : early <+: late) :
    (stringOf early).toList <+: (stringOf late).toList ↔ ¬SplitsChar early late := by
  rw [stringOf, stringOf, String.toList_ofList, String.toList_ofList]
  exact decodeLossy_isPrefix_iff goesOn

/-! ### Reading in chunks -/

/-- The bytes that have been read of a stream. -/
structure Capture where
  buffer : Bytes

namespace Capture

/-- Reads another chunk. -/
def read (c : Capture) (chunk : Bytes) : Capture :=
  ⟨c.buffer ++ chunk⟩

/-- What has been read in some chunks. -/
def ofChunks (chunks : List Bytes) : Capture :=
  chunks.foldl read ⟨[]⟩

/-- The text of what has been read. -/
def text (c : Capture) : String :=
  stringOf c.buffer

/-- In which chunks the bytes come makes no difference to what has been read. -/
theorem buffer_foldl_read (c : Capture) (chunks : List Bytes) :
    (chunks.foldl read c).buffer = c.buffer ++ chunks.flatten := by
  induction chunks generalizing c with
  | nil => exact (List.append_nil _).symm
  | cons chunk chunks ih =>
    rw [List.foldl_cons, ih, List.flatten_cons, ← List.append_assoc]
    rfl

theorem text_ofChunks (chunks : List Bytes) :
    (ofChunks chunks).text = stringOf chunks.flatten :=
  congrArg stringOf (buffer_foldl_read ⟨[]⟩ chunks)

/-- The text of some chunks is the start of that of some more, unless a character is cut. -/
theorem text_take_isPrefix_iff (chunks : List Bytes) {i k : Nat} (before : i ≤ k) :
    (ofChunks (chunks.take i)).text.toList <+: (ofChunks (chunks.take k)).text.toList ↔
      ¬SplitsChar (chunks.take i).flatten (chunks.take k).flatten := by
  obtain ⟨more, split⟩ := List.take_prefix_take_left (l := chunks) before
  rw [text_ofChunks, text_ofChunks]
  refine stringOf_isPrefix_iff ⟨more.flatten, ?_⟩
  rw [← split, List.flatten_append]

end Capture

/-! ### The output of a job -/

namespace Host

/-- The host on which a stream is read, after the end of a process. -/
def reading (h : Host) (p : Process) : Stream → Host
  | .stdout => (h.drain p.stdout).2
  | .stderr => ((h.drain p.stdout).2.drain p.stderr).2

section

variable (h : Host) (p : Process) (stream : Stream) (status : ExitStatus)

/-- The text of the output is what has been written to the stream by the time that it is read, read
leniently. -/
theorem text_outputOf : (h.outputOf p status).1.text stream =
    stringOf ((h.reading p stream).written (p.pipe stream)) := by
  cases stream <;> rfl

theorem pours_reading : h.Pours (h.reading p stream) := by
  cases stream with
  | stdout => exact elapsing_pours.drain h _
  | stderr => exact (elapsing_pours.drain h _).trans (elapsing_pours.drain _ _)

theorem reading_pours : (h.reading p stream).Pours (h.outputOf p status).2 := by
  cases stream with
  | stdout => exact elapsing_pours.drain _ _
  | stderr => exact .refl _

end

/-- The streams of a process that has been started are there. -/
theorem pipe_lt_of_launch {h h' : Host} {l : Launch} {p : Process}
    (launched : h.launch l = (.ok p, h')) (stream : Stream) :
    p.pipe stream < h'.pipes.length := by
  rw [launch, spawn] at launched
  cases behaves : h.behaviourOf l with
  | error e =>
    rw [behaves] at launched
    cases launched
  | ok behaviour =>
    rw [behaves] at launched
    cases launched
    cases stream <;> simp [record, Process.pipe]

end Host

namespace Job

/-- What the job has written to a stream. -/
def wrote (j : Job) (stream : Stream) (h : Host) : Bytes :=
  h.written (j.process.pipe stream)

/-- What has been read of a stream of the job. -/
def soFar (j : Job) : Stream → Host → String
  | .stdout => j.stdoutSoFar
  | .stderr => j.stderrSoFar

/-- Looks at the job until it has ended. -/
def ending (j : Job) (timeout : Duration) (h : Host) : Option ExitStatus × Host :=
  Host.pollEnd j.process.id (h.time.1.later timeout.nanoseconds) (looksFor timeout) h.time.2

/-- A wait reads the stream until nobody can write to it any more. -/
def Drains (j : Job) (timeout : Duration) (stream : Stream) (h : Host) : Prop :=
  ((j.ending timeout h).2.reading j.process stream).isOpen (j.process.pipe stream) = false

variable {j j' : Job} {h h' : Host}

theorem soFar_eq (j : Job) (stream : Stream) (h : Host) :
    j.soFar stream h = stringOf (j.wrote stream h) := by
  cases stream <;> rfl

theorem Becomes.wrote (becomes : j.Becomes j') (stream : Stream) (h : Host) :
    j'.wrote stream h = j.wrote stream h := by
  rw [Job.wrote, Job.wrote, becomes.process]

/-- A job whose output has not been collected is waited for until it ends, and its streams are
read. -/
theorem wait_of_new {timeout : Duration} {output : Output} (new : j.output = none)
    (waited : j.wait timeout h = (.ok output, j', h')) : ∃ status,
      (output, h') = (j.ending timeout h).2.outputOf j.process status := by
  rw [wait, new] at waited
  rw [ending]
  generalize h.time = looked at waited ⊢
  obtain ⟨start, h₁⟩ := looked
  simp only at waited ⊢
  generalize Host.pollEnd j.process.id _ _ _ = ended at waited ⊢
  obtain ⟨_ | status, h₂⟩ := ended
  · cases waited
  · cases waited
    exact ⟨status, rfl⟩

/-- The output of a stream is all that has been written to it when it is read. -/
theorem wait_reads {timeout : Duration} {output : Output} (sound : h.Sound)
    (new : j.output = none) (waited : j.wait timeout h = (.ok output, j', h'))
    (stream : Stream) : ∃ reader, h.Pours reader ∧ reader.Pours h' ∧
      output.text stream = stringOf (j.wrote stream reader) ∧
      (j.Drains timeout stream h → reader.isOpen (j.process.pipe stream) = false) := by
  obtain ⟨status, read⟩ := wait_of_new new waited
  have ended : h.Pours (j.ending timeout h).2 := by
    have watching := Host.watching_pours
    exact (watching.trans (watching.time h) (watching.pollEnd _ _ _ _) sound).2
  have after := Host.reading_pours (j.ending timeout h).2 j.process stream status
  have text := Host.text_outputOf (j.ending timeout h).2 j.process stream status
  rw [← read] at after text
  exact ⟨_, ended.trans (Host.pours_reading _ _ _), after, text, id⟩

end Job

namespace JobTable

/-! ### Histories -/

variable {t : JobTable}

theorem after_pours (sound : t.host.Sound) (moves : List Move) :
    t.host.Pours (t.after moves).host := by
  have lasts := after_watching Host.watching_pours
    (fun h id signal unseen sound =>
      ⟨(Host.Settles.signalProcess sound unseen signal).sound,
        .signalProcess sound.numbered id signal⟩)
    (fun h l sound => ⟨(Host.Settles.launch sound l).sound, .launch h l⟩) t moves
  exact (lasts sound).2

/-- The streams of all jobs are there. -/
def Piped (t : JobTable) : Prop :=
  ∀ job ∈ t.jobs, ∀ stream, job.process.pipe stream < t.host.pipes.length

theorem Piped.step (piped : t.Piped) (sound : t.host.Sound) (move : Move) :
    (t.step move).Piped := by
  have pours := after_pours sound [move]
  have keeps : ∀ job ∈ t.jobs, ∀ stream,
      job.process.pipe stream < (t.step move).host.pipes.length :=
    fun job mem stream => Nat.lt_of_lt_of_le (piped job mem stream) pours.count
  cases move with
  | pass | run => exact keeps
  | start l name expectation =>
    rcases launched : t.host.launch l with ⟨_ | p, h⟩ <;>
      simp only [JobTable.step, Job.start, launched] at keeps ⊢
    · exact keeps
    · refine List.forall_mem_append.mpr ⟨keeps, fun job mem stream => ?_⟩
      cases List.mem_singleton.mp mem
      exact Host.pipe_lt_of_launch launched stream
  | perform place operation =>
    cases asked : t.jobs[place]? with
    | none =>
      simp only [JobTable.step, asked] at keeps ⊢
      exact keeps
    | some job =>
      simp only [JobTable.step, asked] at keeps ⊢
      intro other mem stream
      rcases List.mem_or_eq_of_mem_set mem with old | rfl
      · exact keeps other old stream
      · rw [(job.perform_becomes operation t.host).process]
        exact keeps job (List.mem_of_getElem? asked) stream

/-- The streams of jobs stay those of the host, whatever moves are made. -/
theorem Piped.after (piped : t.Piped) (sound : t.host.Sound) (moves : List Move) :
    (t.after moves).Piped := by
  induction moves generalizing t with
  | nil => exact piped
  | cons move moves ih =>
    exact ih (piped.step sound move) (Leads.step sound move).settles.sound

/-- What has been written is there for good, and no more is written to a stream that nobody can
write to. -/
theorem wrote_after (sound : t.host.Sound) {place : Nat} {job : Job}
    (there : t.jobs[place]? = some job) (stream : Stream) (moves : List Move) :
    ∃ job', (t.after moves).jobs[place]? = some job' ∧ job'.process = job.process ∧
      job.wrote stream t.host <+: job'.wrote stream (t.after moves).host ∧
      (t.Piped → t.host.isOpen (job.process.pipe stream) = false →
        job'.wrote stream (t.after moves).host = job.wrote stream t.host) := by
  obtain ⟨job', there', becomes⟩ := (Leads.after sound moves).jobs place job there
  have pours := after_pours sound moves
  refine ⟨job', there', becomes.process, ?_, fun piped shut => ?_⟩
  · rw [becomes.wrote]
    exact pours.written _
  · rw [becomes.wrote]
    exact (pours.closed _ (piped job (List.mem_of_getElem? there) stream) shut).2

/-- The first wait for a job reads all that has been written to a stream by then, and if it drains
the stream, all that ever will be. -/
theorem wait_after (sound : t.host.Sound) (piped : t.Piped) {place : Nat} {job : Job}
    (there : t.jobs[place]? = some job) (stream : Stream) {timeout : Duration} {output : Output}
    (new : job.output = none) (answers : t.answer? place (.wait timeout) = some (.output output)) :
    ∃ all, output.text stream = stringOf all ∧ job.wrote stream t.host <+: all ∧
      (job.Drains timeout stream t.host → ∀ moves u,
        (t.step (.perform place (.wait timeout))).after moves = u →
        ∃ job', u.jobs[place]? = some job' ∧ job'.wrote stream u.host = all) := by
  obtain ⟨_, same, answered⟩ := answer?_eq_some_iff.mp answers
  cases there.symm.trans same
  rcases waited : job.wait timeout t.host with ⟨fault | known, job', h'⟩ <;>
    simp only [Job.perform, waited] at answered <;> cases answered
  obtain ⟨reader, before, after, text, drains⟩ := Job.wait_reads sound new waited stream
  refine ⟨job.wrote stream reader, text, before.written _, ?_⟩
  rintro drained moves u rfl
  have stepped : t.step (.perform place (.wait timeout)) = ⟨t.jobs.set place job', h'⟩ := by
    simp only [step_perform there, Job.perform, waited]
  have inside := piped job (List.mem_of_getElem? there) stream
  obtain ⟨shut, same⟩ := after.closed _ (Nat.lt_of_lt_of_le inside before.count) (drains drained)
  obtain ⟨rfl, -⟩ := Job.wait_ok waited
  obtain ⟨job'', there'', -, -, stays⟩ :=
    wrote_after (Leads.step sound (.perform place (.wait timeout))).settles.sound
      (by rw [stepped]; exact List.getElem?_set_self (List.getElem?_eq_some_iff.mp there).1)
      stream moves
  refine ⟨job'', there'', ?_⟩
  rw [stays (piped.step sound _) (by rw [stepped]; exact shut), stepped]
  exact same

/-- What has been read of a stream of a job is the start of what is read of it later, of the output
that the first wait for the job gives, and of what more chunks of it are read as, unless it ends
within a character. What the bytes of the output are read as does not depend on their chunks, and
nothing but it is read any more once the stream has been drained. -/
theorem soFar_isPrefix_iff {h : Host} (new : h.IsNew) (moves more : List Move) {t u : JobTable}
    {place : Nat} {job : Job} (stream : Stream) (first : (JobTable.mk [] h).after moves = t)
    (there : t.jobs[place]? = some job) (later : t.after more = u) :
    ∃ job', u.jobs[place]? = some job' ∧
      job.wrote stream t.host <+: job'.wrote stream u.host ∧
      ((job.soFar stream t.host).toList <+: (job'.soFar stream u.host).toList ↔
        ¬SplitsChar (job.wrote stream t.host) (job'.wrote stream u.host)) ∧
      ∀ timeout output, job'.output = none →
        u.answer? place (.wait timeout) = some (.output output) →
        ∃ all, job'.wrote stream u.host <+: all ∧
          ((job.soFar stream t.host).toList <+: (output.text stream).toList ↔
            ¬SplitsChar (job.wrote stream t.host) all) ∧
          (∀ chunks : List Bytes, chunks.flatten = all →
            (Capture.ofChunks chunks).text = output.text stream ∧
              ∀ i k, i ≤ k →
                ((Capture.ofChunks (chunks.take i)).text.toList <+:
                    (Capture.ofChunks (chunks.take k)).text.toList ↔
                  ¬SplitsChar (chunks.take i).flatten (chunks.take k).flatten)) ∧
          (job'.Drains timeout stream u.host → ∀ rest v,
            (u.step (.perform place (.wait timeout))).after rest = v →
            ∃ job'', v.jobs[place]? = some job'' ∧ job''.wrote stream v.host = all ∧
              job''.soFar stream v.host = output.text stream) := by
  subst first later
  have start : (JobTable.mk [] h).Piped := List.forall_mem_nil _
  have sound := (Leads.after (t := ⟨[], h⟩) new.sound moves).settles.sound
  have piped := start.after new.sound moves
  generalize (JobTable.mk [] h).after moves = t at there sound piped ⊢
  obtain ⟨job', there', process, goesOn, -⟩ := wrote_after sound there stream more
  have sound' := (Leads.after sound more).settles.sound
  have piped' := piped.after sound more
  refine ⟨job', there', goesOn, ?_, fun timeout output unread answers => ?_⟩
  · rw [Job.soFar_eq, Job.soFar_eq]
    exact stringOf_isPrefix_iff goesOn
  · obtain ⟨all, text, reads, drained⟩ :=
      wait_after sound' piped' there' stream unread answers
    rw [text]
    refine ⟨all, reads, ?_, ?_, ?_⟩
    · rw [Job.soFar_eq]
      exact stringOf_isPrefix_iff (goesOn.trans reads)
    · rintro chunks rfl
      exact ⟨Capture.text_ofChunks chunks, fun i k => Capture.text_take_isPrefix_iff chunks⟩
    · rintro drains rest v rfl
      obtain ⟨job'', there'', ends⟩ := drained drains rest _ rfl
      exact ⟨job'', there'', ends, by rw [Job.soFar_eq, ends]⟩

/-! ### A character that is written in two parts -/

/-- A host with a program that writes a character in two parts, five milliseconds apart. -/
def partsHost : Host :=
  { briefHost with
    load := fun _ => .ok <| .write .stdout [0xE2, 0x82] <|
      .pause (.ofMilliseconds 5) (fun _ => .ignores) fun _ => .write .stdout [0xAC] (.exit 0) }

/-- The program has been started as a job, and has written the first part. -/
def partsTable : JobTable :=
  (JobTable.mk [] partsHost).after
    [.start ⟨["/bin/p"], [], ⟨"/"⟩, []⟩ none .success, .pass ⟨2000000⟩]

/-- The program has ended. -/
def partsEnded : JobTable :=
  partsTable.after [.pass ⟨20000000⟩]

theorem exists_job_partsTable : ∃ job, partsTable.jobs[0]? = some job ∧
    job.soFar .stdout partsTable.host = "\uFFFD" :=
  Option.map_eq_some_iff.mp (by decide +kernel)

theorem exists_job_partsEnded : ∃ job, partsEnded.jobs[0]? = some job ∧
    job.soFar .stdout partsEnded.host = "€" ∧ job.output = none ∧
    job.Drains (.ofSeconds 1) .stdout partsEnded.host := by
  have read : (partsEnded.jobs[0]?.map fun job =>
      (job.soFar .stdout partsEnded.host, job.output,
        ((job.ending (.ofSeconds 1) partsEnded.host).2.reading job.process .stdout).isOpen
          (job.process.pipe .stdout))) = some ("€", none, false) := by decide +kernel
  obtain ⟨job, there, read⟩ := Option.map_eq_some_iff.mp read
  simp only [Prod.mk.injEq] at read
  exact ⟨job, there, read⟩

theorem answer?_partsEnded : partsEnded.answer? 0 (.wait (.ofSeconds 1)) =
    some (.output ⟨some 0, none, "€", ""⟩) := by decide +kernel

/-- The snapshots are cut within the character, and the output that is waited for is not. -/
theorem soFar_isPrefix_iff_parts : ∃ job job', partsTable.jobs[0]? = some job ∧
    partsEnded.jobs[0]? = some job' ∧
    SplitsChar (job.wrote .stdout partsTable.host) (job'.wrote .stdout partsEnded.host) ∧
    ∀ rest, ∃ job'',
      ((partsEnded.step (.perform 0 (.wait (.ofSeconds 1)))).after rest).jobs[0]? = some job'' ∧
      job''.soFar .stdout ((partsEnded.step (.perform 0 (.wait (.ofSeconds 1)))).after rest).host =
        "€" := by
  obtain ⟨job, there, early⟩ := exists_job_partsTable
  obtain ⟨job', there', late, unread, drains⟩ := exists_job_partsEnded
  obtain ⟨_, same, -, splits, waits⟩ := soFar_isPrefix_iff (h := partsHost) (t := partsTable)
    (u := partsEnded) ⟨rfl, rfl⟩ _ _ .stdout rfl there rfl
  cases there'.symm.trans same
  obtain ⟨all, -, -, -, ends⟩ := waits (.ofSeconds 1) _ unread answer?_partsEnded
  refine ⟨job, job', there, there', ?_, fun rest => ?_⟩
  · by_contra whole
    have starts := splits.mpr whole
    rw [early, late] at starts
    exact absurd starts (by decide)
  · obtain ⟨job'', there'', -, stays⟩ := ends drains rest _ rfl
    exact ⟨job'', there'', stays⟩

/-- What has been read of the first part is a character that the job never writes. It is the start
neither of what is read later nor of the output. -/
theorem soFar_not_isPrefix_parts : ∃ job job' output, partsTable.jobs[0]? = some job ∧
    partsEnded.jobs[0]? = some job' ∧
    partsEnded.answer? 0 (.wait (.ofSeconds 1)) = some (.output output) ∧
    job'.Drains (.ofSeconds 1) .stdout partsEnded.host ∧
    ¬(job.soFar .stdout partsTable.host).toList <+:
      (job'.soFar .stdout partsEnded.host).toList ∧
    ¬(job.soFar .stdout partsTable.host).toList <+: (output.text .stdout).toList := by
  obtain ⟨job, there, early⟩ := exists_job_partsTable
  obtain ⟨job', there', late, -, drains⟩ := exists_job_partsEnded
  refine ⟨job, job', _, there, there', answer?_partsEnded, drains, ?_, ?_⟩
  · rw [early, late]
    decide
  · rw [early]
    decide

end JobTable
end ScriptSuite
