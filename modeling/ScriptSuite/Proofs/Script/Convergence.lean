import ScriptSuite.Proofs.Script.Comparison
import ScriptSuite.Proofs.Script.Replacement

/-!
Making the same updates again.

A file is seen by comparisons as its text with a line feed at the end (`ArchiveFile.reading`),
and a series of updates leaves each file in a state that the same series does not change
(`foldl_compared_idem`): the texts that take the place of others do so again, and in the end the
last change is the same. So a script that has been updated, written and read back is written as
it was after the same updates (`updates_converge`), and needs none of them if the texts for each
file agree.
-/

namespace ScriptSuite

open Text

/-- A text that is compared with the data of an archive file. -/
structure Candidate where
  actualName : String
  expectedName : String
  /-- The archive file. -/
  entry : String
  actual : String
  deriving DecidableEq, Repr

namespace Candidate

/-- The comparison with what the archive holds, if it has the file. -/
def comparison? (c : Candidate) (s : Script) : Option Comparison :=
  (s.file? c.entry).map fun f =>
    ⟨c.actualName, c.actual, c.expectedName, stringOf f.data, some c.entry⟩

/-- The script after the comparison in update mode. -/
def update? (c : Candidate) (s : Script) : Option Script :=
  (c.comparison? s).bind fun comparison =>
    match comparison.judge s true with
    | .matched => some s
    | .updated changed => some changed
    | .mismatch => none

/-- The script after comparisons in update mode, one after another. -/
def updateAll? : List Candidate → Script → Option Script
  | [], s => some s
  | c :: cs, s => (c.update? s).bind (updateAll? cs)

end Candidate

open Comparison (normalized)

theorem Comparison.normalized_normalize (cs : List Char) :
    normalized (String.ofList (normalize cs)) = normalized (String.ofList cs) := by
  rw [normalized, normalized, String.toList_ofList, String.toList_ofList,
    normalize_eq_self (normalize_closed cs)]

namespace ArchiveFile

/-- What a comparison sees of the data of a file. -/
def reading (f : ArchiveFile) : String :=
  normalized (stringOf f.data)

/-- A file after a comparison in update mode. -/
def compared (f : ArchiveFile) (c : Candidate) : ArchiveFile :=
  if c.entry = f.name ∧ normalized c.actual ≠ f.reading then { f with data := bytesOf c.actual }
  else f

theorem reading_of_data {f : ArchiveFile} {text : String} (h : f.data = bytesOf text) :
    f.reading = normalized text := by
  rw [reading, h, stringOf, bytesOf, decodeLossy_encode, String.ofList_toList]

/-- A file that has been written back reads as before, apart from a line feed that it has got. -/
theorem reading_settled (f : ArchiveFile) : f.settled.reading = f.reading := by
  rw [reading, reading, stringOf, stringOf, Script.decodeLossy_settled,
    Comparison.normalized_normalize]

theorem reading_eq_iff {f g : ArchiveFile} :
    f.reading = g.reading ↔ normalize (decodeLossy f.data) = normalize (decodeLossy g.data) := by
  rw [reading, reading, ← String.toList_inj]
  simp only [normalized, stringOf, String.toList_ofList]

/-! ### One comparison -/

section

variable {f g : ArchiveFile} {c : Candidate} {cs : List Candidate}

/-- A comparison that matches leaves its file as it is. -/
theorem compared_eq_self (h : c.entry = f.name → normalized c.actual = f.reading) :
    f.compared c = f := by
  rw [compared, if_neg]
  rintro ⟨named, differ⟩
  exact differ (h named)

/-- A comparison that does not match gives its file the actual text. -/
theorem compared_eq_update (named : c.entry = f.name) (differ : normalized c.actual ≠ f.reading) :
    f.compared c = { f with data := bytesOf c.actual } := by
  rw [compared, if_pos ⟨named, differ⟩]

@[simp]
theorem name_compared (f : ArchiveFile) (c : Candidate) : (f.compared c).name = f.name := by
  rw [compared]
  split <;> rfl

@[simp]
theorem ending_compared (f : ArchiveFile) (c : Candidate) :
    (f.compared c).ending = f.ending := by
  rw [compared]
  split <;> rfl

/-- After a comparison the file agrees with the text that it was compared with. -/
theorem reading_compared (f : ArchiveFile) (c : Candidate) :
    (f.compared c).reading = if c.entry = f.name then normalized c.actual else f.reading := by
  by_cases named : c.entry = f.name
  · rw [if_pos named]
    by_cases same : normalized c.actual = f.reading
    · rw [compared_eq_self fun _ => same, same]
    · rw [compared_eq_update named same]
      exact reading_of_data rfl
  · rw [compared_eq_self fun h => absurd h named, if_neg named]

theorem Writable.compared (h : f.Writable)
    (clear : Separator.occursIn c.actual.toList = false) : (f.compared c).Writable := by
  rw [ArchiveFile.compared]
  split
  · exact ⟨h.named, h.noFeed, _, rfl, clear⟩
  · exact h

/-! ### A series of comparisons -/

/-- What no comparison changes is not changed by a series. -/
theorem foldl_compared_keeps {β : Type} {get : ArchiveFile → β}
    (keeps : ∀ f c, get (f.compared c) = get f) (f : ArchiveFile) (cs : List Candidate) :
    get (cs.foldl compared f) = get f := by
  induction cs generalizing f with
  | nil => rfl
  | cons c cs ih => rw [List.foldl_cons, ih, keeps]

theorem name_foldl_compared (f : ArchiveFile) (cs : List Candidate) :
    (cs.foldl compared f).name = f.name :=
  foldl_compared_keeps name_compared f cs

theorem ending_foldl_compared (f : ArchiveFile) (cs : List Candidate) :
    (cs.foldl compared f).ending = f.ending :=
  foldl_compared_keeps ending_compared f cs

/-- Texts that hold no separator keep a file such that it can be written back. -/
theorem Writable.foldl_compared (h : f.Writable)
    (clear : ∀ c ∈ cs, Separator.occursIn c.actual.toList = false) :
    (cs.foldl ArchiveFile.compared f).Writable := by
  induction cs generalizing f with
  | nil => exact h
  | cons c cs ih =>
    obtain ⟨first, others⟩ := List.forall_mem_cons.mp clear
    exact ih (h.compared first) others

/-- What comparisons see in the end depends on what they saw in the beginning, and on nothing
else. -/
theorem reading_foldl_compared_congr (name : f.name = g.name) (reading : f.reading = g.reading)
    (cs : List Candidate) : (cs.foldl compared f).reading = (cs.foldl compared g).reading := by
  induction cs generalizing f g with
  | nil => exact reading
  | cons c cs ih =>
    refine ih (by simp [name]) ?_
    rw [reading_compared, reading_compared, name, reading]

/-- Texts that agree with a file, if there is one at all, leave it in agreement with them. -/
theorem reading_foldl_compared_eq {reading : String}
    (agree : ∀ c ∈ cs, c.entry = f.name → normalized c.actual = reading)
    (some : f.reading = reading ∨ ∃ c ∈ cs, c.entry = f.name) :
    (cs.foldl compared f).reading = reading := by
  induction cs generalizing f with
  | nil => simpa using some
  | cons c cs ih =>
    obtain ⟨first, others⟩ := List.forall_mem_cons.mp agree
    refine ih (by simpa using others) ?_
    rw [reading_compared, name_compared]
    by_cases named : c.entry = f.name
    · exact .inl (by rw [if_pos named, first named])
    · rw [if_neg named]
      refine some.imp_right fun ⟨d, mem, hd⟩ => ⟨d, ?_, hd⟩
      rcases List.mem_cons.mp mem with rfl | mem
      · exact absurd hd named
      · exact mem

/-- Once a file has been seen to change, it does not matter which data it had before. -/
theorem foldl_compared_eq_of_change (name : f.name = g.name) (ending : f.ending = g.ending)
    (reading : f.reading = g.reading) (change : (cs.foldl compared f).reading ≠ f.reading) :
    cs.foldl compared f = cs.foldl compared g := by
  induction cs generalizing f g with
  | nil => exact absurd rfl change
  | cons c cs ih =>
    rw [List.foldl_cons] at change ⊢
    rw [List.foldl_cons]
    by_cases kept : c.entry = f.name → normalized c.actual = f.reading
    · have kept' : c.entry = g.name → normalized c.actual = g.reading := by rwa [← name, ← reading]
      rw [compared_eq_self kept] at change ⊢
      rw [compared_eq_self kept']
      exact ih name ending reading change
    · obtain ⟨named, differ⟩ := Classical.not_imp.mp kept
      rw [compared_eq_update named differ,
        compared_eq_update (named.trans name) (reading ▸ differ), name, ending]

/-- A series of comparisons changes nothing if it is made again. -/
theorem foldl_compared_idem (f : ArchiveFile) (cs : List Candidate) :
    cs.foldl compared (cs.foldl compared f) = cs.foldl compared f := by
  induction cs generalizing f with
  | nil => rfl
  | cons c cs ih =>
    simp only [List.foldl_cons]
    obtain ⟨last, hlast⟩ : ∃ last, cs.foldl compared (f.compared c) = last := ⟨_, rfl⟩
    have name : last.name = f.name := by rw [← hlast, name_foldl_compared, name_compared]
    have ending : last.ending = f.ending := by
      rw [← hlast, ending_foldl_compared, ending_compared]
    rw [hlast]
    by_cases kept : c.entry = last.name → normalized c.actual = last.reading
    · rw [compared_eq_self kept, ← hlast, ih]
    · -- the first text is put in again, and the change that came after it is made again
      obtain ⟨named, differ⟩ := Classical.not_imp.mp kept
      have first : (f.compared c).reading = normalized c.actual := by
        rw [reading_compared, if_pos (named.trans name)]
      rw [← hlast]
      refine (foldl_compared_eq_of_change ?_ ?_ ?_ ?_).symm
      · rw [hlast, name_compared, name_compared, name]
      · rw [hlast, ending_compared, ending_compared, ending]
      · rw [hlast, first, reading_compared, if_pos named]
      · rw [hlast, first]
        exact Ne.symm differ

end

end ArchiveFile

/-! ### Comparisons with the files of a script -/

namespace Script

theorem file?_eq_some_iff {s : Script} (distinct : (s.files.map ArchiveFile.name).Nodup)
    {name : String} {f : ArchiveFile} : s.file? name = some f ↔ f ∈ s.files ∧ f.name = name := by
  rw [file?]
  generalize s.files = files at distinct
  induction files with
  | nil => simp
  | cons g files ih =>
    obtain ⟨notMem, distinct⟩ := List.nodup_cons.mp distinct
    rw [List.find?_cons]
    by_cases named : g.name = name
    · simp only [beq_iff_eq.mpr named, Option.some.injEq, List.mem_cons]
      constructor
      · rintro rfl
        exact ⟨.inl rfl, named⟩
      · rintro ⟨rfl | mem, hf⟩
        · rfl
        · exact absurd (List.mem_map.mpr ⟨f, mem, hf.trans named.symm⟩) notMem
    · simp only [beq_eq_false_iff_ne.mpr named, ih distinct, List.mem_cons]
      constructor
      · rintro ⟨mem, hf⟩
        exact ⟨.inr mem, hf⟩
      · rintro ⟨rfl | mem, hf⟩
        · exact absurd hf named
        · exact ⟨mem, hf⟩

theorem exists_file?_of_hasFile {s : Script} {name : String} (h : s.hasFile name = true) :
    ∃ f, s.file? name = some f := by
  obtain ⟨f, mem, named⟩ := List.any_eq_true.mp h
  exact Option.isSome_iff_exists.mp (List.find?_isSome.mpr ⟨f, mem, named⟩)

/-- Which files a script has is told by their names. -/
theorem hasFile_congr {s t : Script}
    (same : t.files.map ArchiveFile.name = s.files.map ArchiveFile.name) (name : String) :
    t.hasFile name = s.hasFile name := by
  have known (u : Script) : u.hasFile name = (u.files.map ArchiveFile.name).any (· == name) := by
    rw [hasFile, List.any_map]
    rfl
  rw [known, known, same]

end Script

namespace Candidate

variable {s : Script}

/-- A comparison matches if and only if the actual text reads as the file does. -/
theorem agrees_iff_reading {c : Candidate} {f : ArchiveFile} :
    Comparison.agrees ⟨c.actualName, c.actual, c.expectedName, stringOf f.data, some c.entry⟩ =
        true ↔ normalized c.actual = f.reading := by
  rw [Comparison.agrees, beq_iff_eq, ArchiveFile.reading]

/-- A comparison in update mode always ends well, and changes the file that it is about if the
texts do not agree. -/
theorem update?_eq {c : Candidate} (distinct : (s.files.map ArchiveFile.name).Nodup)
    (there : s.hasFile c.entry = true) :
    c.update? s = some { s with files := s.files.map (ArchiveFile.compared · c) } := by
  obtain ⟨f, found⟩ := Script.exists_file?_of_hasFile there
  obtain ⟨mem, named⟩ := (Script.file?_eq_some_iff distinct).mp found
  have only (g : ArchiveFile) (hg : g ∈ s.files) (same : c.entry = g.name) : g = f := by
    have twice := (Script.file?_eq_some_iff distinct).mpr ⟨hg, same.symm⟩
    exact Option.some.inj (twice.symm.trans found)
  rw [update?, comparison?, found, Option.map_some, Option.bind_some, Comparison.judge]
  by_cases same : normalized c.actual = f.reading
  · rw [if_pos (agrees_iff_reading.mpr same)]
    have keep : s.files.map (ArchiveFile.compared · c) = s.files := by
      refine (List.map_congr_left fun g hg => ?_).trans (List.map_id' _)
      exact ArchiveFile.compared_eq_self fun h => only g hg h ▸ same
    rw [keep]
  · rw [if_neg (fun h => same (agrees_iff_reading.mp h)), if_pos rfl]
    simp only [Comparison.updated?, Option.bind_some, Script.setFile?, there, if_true]
    rw [Script.replaceIn_eq_map distinct]
    refine congrArg (fun files => some { s with files := files })
      (List.map_congr_left fun g hg => ?_)
    by_cases h : g.name = c.entry
    · have differ : normalized c.actual ≠ g.reading := only g hg h.symm ▸ same
      rw [if_pos h, ArchiveFile.compared_eq_update h.symm differ]
    · rw [if_neg h, ArchiveFile.compared_eq_self fun eq => absurd eq.symm h]

/-- A series of comparisons in update mode is one for each file. -/
theorem updateAll?_eq {cs : List Candidate} (distinct : (s.files.map ArchiveFile.name).Nodup)
    (there : ∀ c ∈ cs, s.hasFile c.entry = true) :
    updateAll? cs s =
      some { s with files := s.files.map fun f => cs.foldl ArchiveFile.compared f } := by
  induction cs generalizing s with
  | nil => simp [updateAll?]
  | cons c cs ih =>
    obtain ⟨first, others⟩ := List.forall_mem_cons.mp there
    rw [updateAll?, update?_eq distinct first, Option.bind_some, ih]
    · simp [Function.comp_def]
    · simpa [Function.comp_def] using distinct
    · intro d mem
      exact (Script.hasFile_congr (by simp [Function.comp_def]) d.entry).trans (others d mem)

end Candidate

namespace Script

open Candidate (updateAll?)

/-- Files that a series of comparisons does not change are written as before after they have
been read back and the series has been made again. -/
theorem archiveSource_foldl_compared {files : List ArchiveFile} {cs : List Candidate}
    (fixed : ∀ f ∈ files, cs.foldl ArchiveFile.compared f = f) :
    archiveSource ((settleFiles files).map fun f => cs.foldl ArchiveFile.compared f) =
      archiveSource files := by
  fun_induction settleFiles files with
  | case1 => rfl
  | case2 f => rw [List.map_singleton, fixed f List.mem_cons_self]
  | case3 f rest ne ih =>
    obtain ⟨first, others⟩ := List.forall_mem_cons.mp fixed
    have reading : (cs.foldl ArchiveFile.compared f.settled).reading = f.reading :=
      (ArchiveFile.reading_foldl_compared_congr (f := f.settled) (g := f) rfl f.reading_settled
        cs).trans (congrArg ArchiveFile.reading first)
    have header : headerOf (cs.foldl ArchiveFile.compared f.settled) = headerOf f := by
      rw [headerOf, headerOf, ArchiveFile.name_foldl_compared, ArchiveFile.ending_foldl_compared]
      rfl
    have more : (settleFiles rest).map (fun f => cs.foldl ArchiveFile.compared f) ≠ [] := by
      intro none
      have names := names_settleFiles rest
      rw [List.map_eq_nil_iff.mp none] at names
      exact ne (List.map_eq_nil_iff.mp names.symm)
    rw [List.map_cons, archiveSource_cons _ more, archiveSource_cons f ne, ih others, header,
      ArchiveFile.reading_eq_iff.mp reading]

/-- A script that comparisons have updated is written in the same way if it has been read back
and the same comparisons are made again. If the texts for each file agree, all of them match
the script that has been read back. -/
theorem updates_converge {source : String} {s : Script} {cs : List Candidate}
    (h : parse source = .ok s) (ended : Ended source)
    (there : ∀ c ∈ cs, s.hasFile c.entry = true)
    (clear : ∀ c ∈ cs, Separator.occursIn c.actual.toList = false) :
    ∃ t r t', updateAll? cs s = some t ∧ parse t.toSource = .ok r ∧ updateAll? cs r = some t' ∧
      t'.toSource = t.toSource ∧
      ((∀ c ∈ cs, ∀ d ∈ cs, c.entry = d.entry → normalized c.actual = normalized d.actual) →
        ∀ c ∈ cs, ∃ comparison, c.comparison? r = some comparison ∧
          comparison.judge r false = .matched) := by
  obtain ⟨head, shaped⟩ := shaped_of_parse h
  obtain ⟨after, hafter⟩ : ∃ after : ArchiveFile → ArchiveFile,
      after = fun f => cs.foldl ArchiveFile.compared f := ⟨_, rfl⟩
  have name (f : ArchiveFile) : (after f).name = f.name := by
    rw [hafter, ArchiveFile.name_foldl_compared]
  have ending (f : ArchiveFile) : (after f).ending = f.ending := by
    rw [hafter, ArchiveFile.ending_foldl_compared]
  have first := Candidate.updateAll?_eq shaped.distinct there
  rw [← hafter] at first
  have shaped' : Shaped head { s with files := s.files.map after } :=
    shaped.map name ending fun f mem => hafter ▸ (shaped.writable f mem).foldl_compared clear
  have reads := shaped'.parse_toSource_settled <| List.forall_mem_map.mpr fun f mem => by
    rw [ending]
    exact ended_of_parse h ended f mem
  have names : (settled { s with files := s.files.map after }).files.map ArchiveFile.name =
      s.files.map ArchiveFile.name := by
    rw [settled, names_settleFiles, List.map_map]
    exact List.map_congr_left fun f _ => name f
  have distinct := shaped.distinct
  rw [← names] at distinct
  have there' : ∀ c ∈ cs,
      (settled { s with files := s.files.map after }).hasFile c.entry = true :=
    fun c mem => (hasFile_congr names c.entry).trans (there c mem)
  refine ⟨_, _, _, first, reads, Candidate.updateAll?_eq distinct there', ?_, ?_⟩
  · rw [toSource, toSource]
    refine congrArg (fun cs => s.preamble ++ String.ofList cs)
      (archiveSource_foldl_compared (List.forall_mem_map.mpr fun f _ => ?_))
    rw [hafter]
    exact ArchiveFile.foldl_compared_idem f cs
  · intro agree c mem
    have agrees : ∀ g ∈ settleFiles (s.files.map after), g.name = c.entry →
        g.reading = normalized c.actual := by
      refine forall_settleFiles (fun f h named => f.reading_settled.trans (h named))
        (List.forall_mem_map.mpr fun f _ named => ?_)
      rw [name] at named
      rw [hafter]
      exact ArchiveFile.reading_foldl_compared_eq
        (fun d hd same => agree d hd c mem (same.trans named)) (.inr ⟨c, mem, named.symm⟩)
    obtain ⟨g, found⟩ := exists_file?_of_hasFile (there' c mem)
    obtain ⟨back, named⟩ := (file?_eq_some_iff distinct).mp found
    refine ⟨_, by rw [Candidate.comparison?, found, Option.map_some], ?_⟩
    rw [Comparison.judge, if_pos (Candidate.agrees_iff_reading.mpr (agrees g back named).symm)]

/-- Texts that agree up to the line feed at their end. -/
def agreeingTexts : List Candidate :=
  [⟨"stdout", "a", "a", "new"⟩, ⟨"got", "b", "b", "more\n"⟩, ⟨"stdout", "a", "a", "new\n"⟩]

theorem updates_converge_twoFiles :
    ∃ t r t', updateAll? agreeingTexts twoFiles = some t ∧ parse t.toSource = .ok r ∧
      updateAll? agreeingTexts r = some t' ∧ t'.toSource = t.toSource ∧
      ∀ c ∈ agreeingTexts, ∃ comparison, c.comparison? r = some comparison ∧
        comparison.judge r false = .matched := by
  have reads : parse twoFilesSource = .ok twoFiles := rfl
  have there : ∀ c ∈ agreeingTexts, twoFiles.hasFile c.entry = true := by decide
  obtain ⟨t, r, t', first, back, second, same, matched⟩ :=
    updates_converge reads (by decide) there (by decide)
  exact ⟨t, r, t', first, back, second, same, matched (by decide)⟩

end Script
end ScriptSuite
