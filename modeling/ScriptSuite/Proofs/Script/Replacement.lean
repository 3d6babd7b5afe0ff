import ScriptSuite.Proofs.Script.Revision

/-!
What may be put into the files of an archive.

If all separators of the source have an ending, it is known which lines a script is written as
whatever has been put into its files (`splitLines_toSource_of_ended`). Such a script is read
back with its instructions and its files if and only if no text that has last been put into a
file holds a separator, and then each file has its data, with a line feed at the end if another
file follows (`parse_toSource_iff_clear`).
-/

namespace ScriptSuite

open Text

theorem ArchiveFile.Writable.settled {f : ArchiveFile} (h : f.Writable) : f.settled.Writable := by
  obtain ⟨cs, eq, clear⟩ := h.data
  refine ⟨h.named, h.noFeed, normalize cs, ?_, (Separator.occursIn_normalize cs).trans clear⟩
  rw [encode_normalize, ← eq, ArchiveFile.settled]

namespace Script

/-! ### Separators with an ending -/

/-- All separators of the source end with a line feed. -/
def Ended (source : String) : Prop :=
  ∀ raw ∈ splitLines source.toList, (fileName? raw).isSome = true → endsWithFeed raw = true

instance (source : String) : Decidable (Ended source) :=
  inferInstanceAs (Decidable (∀ raw ∈ splitLines source.toList, _ → _))

theorem ending_ne_bare_of_endsWithFeed {lines : List (List Char)} (cut : Lines lines)
    {raw : List Char} (mem : raw ∈ lines) (feed : endsWithFeed raw = true) :
    (splitEnding raw).2 ≠ .bare := by
  intro bare
  have whole := splitEnding_append raw
  rw [bare, Ending.chars, List.append_nil] at whole
  have noFeed := cut.noFeed raw mem
  rw [whole] at noFeed
  rw [endsWithFeed, beq_iff_eq] at feed
  exact noFeed (List.mem_of_getLast? feed)

/-- If every separator line ends with a line feed, no file has a bare ending. -/
theorem Archive.ended {lines : List (List Char)} {files : List ArchiveFile}
    (h : Archive lines files) (cut : Lines lines)
    (ended : ∀ raw ∈ lines, (fileName? raw).isSome = true → endsWithFeed raw = true) :
    ∀ f ∈ files, f.ending ≠ .bare := by
  induction h with
  | nil => simp
  | @file raw name data rest files named _ _ ih =>
    have feed := ended raw (by simp) (by simp [fileName?, named])
    refine List.forall_mem_cons.mpr ⟨ending_ne_bare_of_endsWithFeed cut (by simp) feed, ?_⟩
    exact ih cut.right fun line mem => ended line (List.mem_append_right _ mem)

/-- Every file of a script has an ending if every separator of its source has one. -/
theorem ended_of_parse {source : String} {s : Script} (h : parse source = .ok s)
    (ended : Ended source) : ∀ f ∈ s.files, f.ending ≠ .bare := by
  obtain ⟨head, tail, eq, -, -, archive, -⟩ := parse_eq_ok_iff.mp h
  have cut : Lines (head ++ tail) := eq ▸ lines_splitLines source.toList
  refine archive.ended cut.right fun raw mem => ended raw ?_
  rw [eq]
  exact List.mem_append_right _ mem

/-! ### The lines of an archive -/

/-- The files of an archive as they are read back: all but the last are followed by another. -/
def settleFiles : List ArchiveFile → List ArchiveFile
  | [] => []
  | [f] => [f]
  | f :: rest => f.settled :: settleFiles rest

/-- A script as it is read back. -/
def settled (s : Script) : Script :=
  { s with files := settleFiles s.files }

/-- The lines that a file is written as. -/
def fileLines (f : ArchiveFile) : List (List Char) :=
  headerOf f :: splitLines (decodeLossy f.data)

theorem flatten_fileLines (f : ArchiveFile) :
    (fileLines f).flatten = headerOf f ++ decodeLossy f.data := by
  rw [fileLines, List.flatten_cons, flatten_splitLines]

/-- To settle a file normalizes its text, and changes nothing else that is read. -/
theorem decodeLossy_settled (f : ArchiveFile) :
    decodeLossy f.settled.data = normalize (decodeLossy f.data) :=
  decodeLossy_normalizeBytes f.data

/-- A property that files keep when they are settled is one of the files that are read back. -/
theorem forall_settleFiles {p : ArchiveFile → Prop} (settle : ∀ f, p f → p f.settled)
    {files : List ArchiveFile} (h : ∀ f ∈ files, p f) : ∀ f ∈ settleFiles files, p f := by
  fun_induction settleFiles files with
  | case1 => exact h
  | case2 f => exact h
  | case3 f rest _ ih =>
    obtain ⟨first, others⟩ := List.forall_mem_cons.mp h
    exact List.forall_mem_cons.mpr ⟨settle f first, ih others⟩

/-- A file that is read back has come of one, as it was or with a line feed at its end. -/
theorem exists_mem_settleFiles {files : List ArchiveFile} {f : ArchiveFile} (mem : f ∈ files) :
    ∃ g ∈ settleFiles files, g = f ∨ g = f.settled := by
  fun_induction settleFiles files with
  | case1 => exact absurd mem List.not_mem_nil
  | case2 h => exact ⟨h, List.mem_cons_self, .inl (List.mem_singleton.mp mem).symm⟩
  | case3 h rest _ ih =>
    rcases List.mem_cons.mp mem with rfl | mem
    · exact ⟨_, List.mem_cons_self, .inr rfl⟩
    · obtain ⟨g, hg, eq⟩ := ih mem
      exact ⟨g, List.mem_cons_of_mem _ hg, eq⟩

theorem names_settleFiles (files : List ArchiveFile) :
    (settleFiles files).map ArchiveFile.name = files.map ArchiveFile.name := by
  fun_induction settleFiles files with
  | case1 => rfl
  | case2 f => rfl
  | case3 f rest _ ih => rw [List.map_cons, ih]; rfl

/-- Which data a file is read back with is told by its place in the archive. -/
theorem getElem?_settleFiles {files : List ArchiveFile} {i : Nat} {f : ArchiveFile}
    (found : files[i]? = some f) :
    (settleFiles files)[i]? = some (if i + 1 < files.length then f.settled else f) := by
  fun_induction settleFiles files generalizing i with
  | case1 => simp at found
  | case2 h =>
    cases i with
    | zero => simpa using found
    | succ i => simp at found
  | case3 h rest ne ih =>
    cases rest with
    | nil => exact absurd rfl ne
    | cons g rest =>
      cases i with
      | zero =>
        cases found
        simp
      | succ i => simpa using ih found

/-- An archive is written file by file, as it is read back. -/
theorem archiveSource_eq_flatten (files : List ArchiveFile) :
    archiveSource files = ((settleFiles files).flatMap fileLines).flatten := by
  fun_induction settleFiles files with
  | case1 => rfl
  | case2 f => simp [archiveSource, flatten_fileLines]
  | case3 f rest ne ih =>
    rw [archiveSource_cons f ne, ih, List.flatMap_cons, List.flatten_append, flatten_fileLines,
      decodeLossy_settled]
    rfl

/-- What an archive is written as are lines, whatever data its files have. -/
theorem lines_settleFiles {files : List ArchiveFile}
    (noFeed : ∀ f ∈ files, '\n' ∉ f.name.toList) (ended : ∀ f ∈ files, f.ending ≠ .bare) :
    Lines ((settleFiles files).flatMap fileLines) := by
  fun_induction settleFiles files with
  | case1 => exact .nil
  | case2 f =>
    rw [List.flatMap_singleton, fileLines]
    exact .cons (closed_headerOf (noFeed f (by simp)) (ended f (by simp))) (lines_splitLines _)
  | case3 f rest _ ih =>
    obtain ⟨name, names⟩ := List.forall_mem_cons.mp noFeed
    obtain ⟨ending, endings⟩ := List.forall_mem_cons.mp ended
    refine .append (List.forall_mem_cons.mpr ⟨closed_headerOf name ending, ?_⟩)
      (ih names endings)
    rw [decodeLossy_settled]
    exact closed_of_mem_splitLines (normalize_closed _)

section

variable {head : List (List Char)} {s t : Script} {us : List Update}

/-- The lines that a script is written as are known if all its separators have an ending. -/
theorem Shaped.splitLines_toSource_of_ended (h : Shaped head s)
    (ended : ∀ f ∈ s.files, f.ending ≠ .bare) (replaced : Replaced s us t) :
    splitLines t.toSource.toList = head ++ (settleFiles t.files).flatMap fileLines := by
  have eq := replaced.eq_updated h.distinct
  subst eq
  have cut : Lines ((settleFiles (s.files.map (ArchiveFile.updated us))).flatMap fileLines) :=
    lines_settleFiles (List.forall_mem_map.mpr fun f mem => (h.writable f mem).noFeed)
      (List.forall_mem_map.mpr ended)
  refine splitLines_eq_iff.mpr ⟨?_, ?_⟩
  · cases none : s.files with
    | nil => simpa [settleFiles] using h.lines
    | cons f files => exact .append (h.closed (by simp [none])) (none ▸ cut)
  · rw [toSource, String.toList_append, String.toList_ofList, h.text, archiveSource_eq_flatten,
      List.flatten_append]

end

/-! ### Reading back -/

/-- Files that can be written are the archive of the lines they are written as. -/
theorem Archive.ofFiles {files : List ArchiveFile} (h : ∀ f ∈ files, f.Writable) :
    Archive (files.flatMap fileLines) files := by
  induction files with
  | nil => exact .nil
  | cons f files ih =>
    obtain ⟨writable, others⟩ := List.forall_mem_cons.mp h
    obtain ⟨cs, eq, clear⟩ := writable.data
    have same : decodeLossy f.data = cs := by rw [eq, decodeLossy_encode]
    rw [List.flatMap_cons, fileLines, same]
    exact .ofFile writable eq clear (ih others)

/-- A script of files that can be written is read back if all its separators have an ending. -/
theorem Shaped.parse_toSource_settled {head : List (List Char)} {s : Script} (h : Shaped head s)
    (ended : ∀ f ∈ s.files, f.ending ≠ .bare) : parse s.toSource = .ok s.settled := by
  refine parse_eq_ok_iff.mpr
    ⟨head, _, h.splitLines_toSource_of_ended ended .refl, h.before, h.text, ?_, ?_⟩
  · exact .ofFiles
      (forall_settleFiles (p := ArchiveFile.Writable) (fun _ h => h.settled) h.writable)
  · rw [settled, names_settleFiles]
    exact h.distinct

theorem Archive.named_or_absent {lines : List (List Char)} {files : List ArchiveFile}
    (h : Archive lines files) :
    ∀ raw ∈ lines, fileName? raw = none → Separator.ofLine raw = .absent := by
  induction h with
  | nil => simp
  | @file raw name data rest files named absent _ ih =>
    intro line mem unnamed
    rcases List.mem_append.mp mem with mem | mem
    · rcases List.mem_cons.mp mem with rfl | mem
      · simp [fileName?, named] at unnamed
      · exact absent line mem
    · exact ih line mem unnamed

/-- A script that has been read has no malformed separator. -/
theorem absent_of_parse {source : String} {s : Script} (h : parse source = .ok s)
    {raw : List Char} (mem : raw ∈ splitLines source.toList) (unnamed : fileName? raw = none) :
    Separator.ofLine raw = .absent := by
  obtain ⟨head, tail, eq, before, -, archive, -⟩ := parse_eq_ok_iff.mp h
  rw [eq] at mem
  rcases List.mem_append.mp mem with mem | mem
  · exact before.absent raw mem
  · exact archive.named_or_absent raw mem unnamed

/-- If each element of a list is followed by others and the list is no longer than without
them, there are no others. -/
theorem forall_eq_nil_of_flatMap {α β : Type} {g : α → β} {more : α → List β} {as : List α}
    (h : (as.flatMap fun a => g a :: more a).length ≤ as.length) : ∀ a ∈ as, more a = [] := by
  have longer (as : List α) : as.length ≤ (as.flatMap fun a => g a :: more a).length := by
    induction as with
    | nil => simp
    | cons a as ih =>
      simp only [List.flatMap_cons, List.length_append, List.length_cons]
      omega
  induction as with
  | nil => simp
  | cons a as ih =>
    have := longer as
    simp only [List.flatMap_cons, List.length_append, List.length_cons] at h
    refine List.forall_mem_cons.mpr ⟨List.eq_nil_of_length_eq_zero (by omega), ih (by omega)⟩

section

variable {source : String} {s t r : Script} {us : List Update}

/-- If the names of all files are read back and no others, no file has a separator in its
data. -/
theorem clear_of_names {head : List (List Char)} (h : Shaped head s)
    (ended : ∀ f ∈ s.files, f.ending ≠ .bare) (replaced : Replaced s us t)
    (reads : parse t.toSource = .ok r)
    (same : r.files.map ArchiveFile.name = s.files.map ArchiveFile.name) :
    ∀ f ∈ t.files, Separator.occursIn (decodeLossy f.data) = false := by
  have eq := replaced.eq_updated h.distinct
  have lines := h.splitLines_toSource_of_ended ended replaced
  have named : ∀ f ∈ settleFiles t.files, fileName? (headerOf f) = some f.name := by
    subst eq
    refine forall_settleFiles (fun f => id) (List.forall_mem_map.mpr fun f mem => ?_)
    exact fileName?_eq_some_iff.mpr
      (Separator.ofLine_line_append_ending (h.writable f mem).named f.ending)
  -- the names that are read back are those of the files, each followed by those in its data
  have names : r.files.map ArchiveFile.name = (settleFiles t.files).flatMap fun f =>
      f.name :: (splitLines (decodeLossy f.data)).filterMap fileName? := by
    rw [names_of_parse reads, lines, List.filterMap_append,
      filterMap_fileName?_of_absent h.before.absent, List.nil_append, List.filterMap_flatMap]
    refine List.flatMap_congr fun f mem => ?_
    rw [fileLines, List.filterMap_cons_some (named f mem)]
  have none : ∀ g ∈ settleFiles t.files,
      (splitLines (decodeLossy g.data)).filterMap fileName? = [] := by
    refine forall_eq_nil_of_flatMap (g := ArchiveFile.name) ?_
    have size := congrArg List.length (names_settleFiles t.files)
    simp only [eq, List.length_map] at size
    rw [← names, same, List.length_map, eq, size]
  intro f mem
  obtain ⟨g, hg, settled⟩ := exists_mem_settleFiles mem
  have clear : Separator.occursIn (decodeLossy g.data) = false := by
    refine Separator.occursIn_eq_false_iff.mpr fun raw hraw => absent_of_parse reads ?_ ?_
    · rw [lines]
      exact List.mem_append_right _
        (List.mem_flatMap.mpr ⟨g, hg, List.mem_cons_of_mem _ hraw⟩)
    · exact List.filterMap_eq_nil_iff.mp (none g hg) raw hraw
  rcases settled with rfl | rfl
  · exact clear
  · rwa [decodeLossy_settled, Separator.occursIn_normalize] at clear

/-- Texts are only put into files that are there. -/
theorem Replaced.exists_file {head : List (List Char)} (h : Shaped head s)
    (replaced : Replaced s us t) {name text : String} (last : Update.last? us name = some text) :
    ∃ f ∈ t.files, f.data = bytesOf text := by
  obtain ⟨f, mem, rfl⟩ : ∃ f ∈ s.files, f.name = name := by
    induction replaced with
    | refl => simp [Update.last?] at last
    | @put us t t' u before set ih =>
      rw [Update.last?_concat] at last
      split at last
      · next same =>
        have there : t.hasFile u.name = true := by
          rw [setFile?] at set
          split at set
          · assumption
          · contradiction
        rw [before.eq_updated h.distinct, hasFile, List.any_map, List.any_eq_true] at there
        obtain ⟨f, mem, named⟩ := there
        exact ⟨f, mem, (beq_iff_eq.mp named).trans same⟩
      · exact ih last
  refine ⟨f.updated us, ?_, ArchiveFile.data_updated last⟩
  rw [replaced.eq_updated h.distinct]
  exact List.mem_map_of_mem mem

/-- The script that texts have been put into is read back with the same instructions and files
if and only if none of the texts that were last put into a file holds a separator. Each file
then has its data, with a line feed at the end if it is not empty, lacks one, and is not the
last. -/
theorem parse_toSource_iff_clear (h : parse source = .ok s) (ended : Ended source)
    (replaced : Replaced s us t) :
    ((∃ r, parse t.toSource = .ok r ∧ r.instructions = s.instructions ∧
        r.files.map ArchiveFile.name = s.files.map ArchiveFile.name) ↔
      ∀ name text, Update.last? us name = some text →
        Separator.occursIn text.toList = false) ∧
    ((∀ name text, Update.last? us name = some text →
        Separator.occursIn text.toList = false) →
      ∃ r, parse t.toSource = .ok r ∧ r.files.length = t.files.length ∧
        ∀ i f, t.files[i]? = some f → ∃ g, r.files[i]? = some g ∧ g.name = f.name ∧
          g.data = if i + 1 < t.files.length ∧ f.data ≠ [] ∧ f.data.getLast? ≠ some feedByte
            then f.data ++ [feedByte] else f.data) := by
  obtain ⟨head, shaped⟩ := shaped_of_parse h
  have endings := ended_of_parse h ended
  have eq := replaced.eq_updated shaped.distinct
  have back (clear : ∀ name text, Update.last? us name = some text →
      Separator.occursIn text.toList = false) : parse t.toSource = .ok t.settled := by
    refine (shaped.replaced replaced clear).parse_toSource_settled ?_
    rw [eq]
    exact List.forall_mem_map.mpr endings
  refine ⟨⟨?_, fun clear => ⟨_, back clear, ?_, ?_⟩⟩, fun clear => ⟨_, back clear, ?_, ?_⟩⟩
  · rintro ⟨r, reads, -, same⟩ name text last
    obtain ⟨f, mem, data⟩ := replaced.exists_file shaped last
    have clear := clear_of_names shaped endings replaced reads same f mem
    rwa [data, bytesOf, decodeLossy_encode] at clear
  · rw [settled, replaced.instructions]
  · rw [settled, names_settleFiles, eq, List.map_map]
    rfl
  · have size := congrArg List.length (names_settleFiles t.files)
    simpa [settled] using size
  · intro i f found
    refine ⟨_, getElem?_settleFiles found, ?_, ?_⟩
    · split <;> rfl
    · by_cases more : i + 1 < t.files.length
      · by_cases empty : f.data = []
        · simp [more, empty, ArchiveFile.settled, normalizeBytes]
        · by_cases feed : f.data.getLast? = some feedByte
          · simp [more, feed, ArchiveFile.settled, normalizeBytes]
          · simp [more, empty, feed, ArchiveFile.settled, normalizeBytes]
      · simp [more]

end

/-! ### A script of two files -/

def twoFilesSource : String := "-- a --\nold\n-- b --\r\n"

def twoFiles : Script :=
  ⟨[], [⟨"a", bytesOf "old\n", .lineFeed⟩, ⟨"b", [], .returnFeed⟩], ""⟩

/-- The text that was put in first holds a separator, the one that took its place does not. -/
theorem parse_toSource_iff_clear_twoFiles :
    ∃ t r, Replaced twoFiles [⟨"a", "-- c --\n"⟩, ⟨"a", "new"⟩] t ∧
      parse t.toSource = .ok r ∧ r.instructions = twoFiles.instructions ∧
      r.files.map ArchiveFile.name = ["a", "b"] := by
  have replaced : Replaced twoFiles ([] ++ [⟨"a", "-- c --\n"⟩] ++ [⟨"a", "new"⟩]) _ :=
    .put (.put .refl rfl) rfl
  have clear : ∀ name text, Update.last? [⟨"a", "-- c --\n"⟩, ⟨"a", "new"⟩] name = some text →
      Separator.occursIn text.toList = false := by
    intro name text last
    by_cases named : name = "a"
    · subst named
      cases last
      decide
    · simp [Update.last?, Ne.symm named] at last
  have reads : parse twoFilesSource = .ok twoFiles := rfl
  obtain ⟨r, back, instructions, names⟩ :=
    (parse_toSource_iff_clear reads (by decide) replaced).1.mpr clear
  exact ⟨_, r, replaced, back, instructions, names⟩

end Script
end ScriptSuite
