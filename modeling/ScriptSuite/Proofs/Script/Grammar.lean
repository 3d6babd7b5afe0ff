import Mathlib.Data.List.Nodup
import ScriptSuite.Proofs.Script.Separator
import ScriptSuite.Script.Parser

/-!
The grammar of scripts.

`Preamble` and `Archive` say which lines make up the two parts of a script and what they
hold, without saying how they are read. Reading accepts exactly what the grammar derives
(`parse_eq_ok_iff`): the source is cut into lines, those before the archive and those of
it, and no two files have the same name.
-/

namespace ScriptSuite

theorem map_eq_ok_iff {ε α β : Type} {f : α → β} {r : Except ε α} {b : β} :
    r.map f = .ok b ↔ ∃ a, r = .ok a ∧ f a = b := by
  cases r with
  | error e => simp [Except.map]
  | ok a => simp [Except.map]

theorem map_eq_error_iff {ε α β : Type} {f : α → β} {r : Except ε α} {e : ε} :
    r.map f = .error e ↔ r = .error e := by
  cases r with
  | error e => simp [Except.map]
  | ok a => simp [Except.map]

namespace Script

open Text

/-- The raw lines before the archive, from line `number` on, and the instructions that they
hold. -/
inductive Preamble : Nat → List (List Char) → List Instruction → Prop where
  | nil {number : Nat} : Preamble number [] []
  | cons {number : Nat} {raw : List Char} {rest : List (List Char)}
      {found : Option Instruction} {instructions : List Instruction} :
      Separator.ofLine raw = .absent → readPreambleLine number (splitEnding raw).1 = .ok found →
      Preamble (number + 1) rest instructions →
      Preamble number (raw :: rest) (found.toList ++ instructions)

/-- The raw lines of an archive, and its files: each has a separator, and data that holds
none. -/
inductive Archive : List (List Char) → List ArchiveFile → Prop where
  | nil : Archive [] []
  | file {raw name : List Char} {data rest : List (List Char)} {files : List ArchiveFile} :
      Separator.ofLine raw = .named name → (∀ line ∈ data, Separator.ofLine line = .absent) →
      Archive rest files →
      Archive (raw :: data ++ rest)
        (⟨String.ofList name, encode data.flatten, (splitEnding raw).2⟩ :: files)

theorem Preamble.absent {number : Nat} {lines : List (List Char)}
    {instructions : List Instruction} (h : Preamble number lines instructions) :
    ∀ raw ∈ lines, Separator.ofLine raw = .absent := by
  induction h with
  | nil => simp
  | cons absent _ _ ih => exact List.forall_mem_cons.mpr ⟨absent, ih⟩

/-! ### Reading the archive -/

/-- Lines that are no separators are data, whatever they look like. -/
theorem readArchive_absent (number : Nat) (names : List (List Char)) {data : List (List Char)}
    (absent : ∀ line ∈ data, Separator.ofLine line = .absent) (rest : List (List Char)) :
    readArchive number names (data ++ rest) =
      (readArchive (number + data.length) names rest).map
        fun found => (data.flatten ++ found.1, found.2) := by
  induction data generalizing number with
  | nil =>
    rw [List.nil_append, List.length_nil, Nat.add_zero]
    cases readArchive number names rest <;> rfl
  | cons raw data ih =>
    have h : Separator.ofLine (splitEnding raw).1 = .absent := by
      rw [Separator.ofLine_splitEnding, absent raw List.mem_cons_self]
    have ih := ih (number + 1) fun line mem => absent line (List.mem_cons_of_mem _ mem)
    rw [List.cons_append, readArchive]
    simp only [h, ih, List.length_cons, Nat.add_right_comm number 1, Nat.add_assoc]
    cases readArchive (number + (data.length + 1)) names rest with
    | error e => rfl
    | ok found => simp [Except.map]

/-- An archive is read if no two of its files have the same name and none has a name that is
taken. -/
theorem readArchive_of_archive {lines : List (List Char)} {files : List ArchiveFile}
    (h : Archive lines files) (number : Nat) (names : List (List Char))
    (distinct : (files.map ArchiveFile.name).Nodup)
    (free : ∀ f ∈ files, f.name.toList ∉ names) :
    readArchive number names lines = .ok ([], files) := by
  induction h generalizing number names with
  | nil => rfl
  | @file raw name data rest files named absent _ ih =>
    obtain ⟨notMem, distinct⟩ := List.nodup_cons.mp distinct
    have fresh : names.contains name = false := by
      simpa using free _ List.mem_cons_self
    have ih := ih (number + 1 + data.length) (name :: names) distinct fun f mem => by
      simp only [List.mem_cons, not_or]
      refine ⟨?_, free f (List.mem_cons_of_mem _ mem)⟩
      rintro rfl
      exact notMem (List.mem_map.mpr ⟨f, mem, by simp⟩)
    rw [List.cons_append, readArchive]
    simp only [Separator.ofLine_splitEnding, named, fresh, readArchive_absent _ _ absent, ih]
    simp [Except.map]

/-- Lines that are read as part of an archive are some data, and then an archive. -/
theorem archive_of_readArchive {number : Nat} {names lines : List (List Char)}
    {data : List Char} {files : List ArchiveFile}
    (h : readArchive number names lines = .ok (data, files)) :
    ∃ lead rest, lines = lead ++ rest ∧ (∀ line ∈ lead, Separator.ofLine line = .absent) ∧
      data = lead.flatten ∧ Archive rest files ∧ (files.map ArchiveFile.name).Nodup ∧
      ∀ f ∈ files, f.name.toList ∉ names := by
  induction lines generalizing number names data files with
  | nil =>
    cases h
    exact ⟨[], [], rfl, by simp, rfl, .nil, List.nodup_nil, by simp⟩
  | cons raw lines ih =>
    rw [readArchive] at h
    simp only [Separator.ofLine_splitEnding] at h
    cases hline : Separator.ofLine raw with
    | malformed line => simp [hline] at h
    | absent =>
      rw [hline] at h
      obtain ⟨⟨data', files'⟩, inner, eq⟩ := map_eq_ok_iff.mp h
      cases eq
      obtain ⟨lead, rest, rfl, absent, rfl, archive, distinct, free⟩ := ih inner
      refine ⟨raw :: lead, rest, rfl, ?_, rfl, archive, distinct, free⟩
      intro line mem
      rcases List.mem_cons.mp mem with rfl | mem
      · exact hline
      · exact absent line mem
    | named name =>
      simp only [hline] at h
      split at h
      · contradiction
      · next fresh =>
        obtain ⟨⟨data', files'⟩, inner, eq⟩ := map_eq_ok_iff.mp h
        cases eq
        obtain ⟨lead, rest, rfl, absent, rfl, archive, distinct, free⟩ := ih inner
        refine ⟨[], _, rfl, by simp, rfl, .file hline absent archive, ?_, ?_⟩
        · refine List.nodup_cons.mpr ⟨fun mem => ?_, distinct⟩
          obtain ⟨f, mem, eq⟩ := List.mem_map.mp mem
          exact free f mem (by simp [eq])
        · intro f mem
          rcases List.mem_cons.mp mem with rfl | mem
          · simpa using fresh
          · exact fun taken => free f mem (List.mem_cons_of_mem _ taken)

/-! ### Reading scripts -/

/-- Lines are read as a script if and only if they are a preamble and, after it, an archive. -/
theorem readLines_eq_ok_iff {number : Nat} {lines : List (List Char)}
    {instructions : List Instruction} {files : List ArchiveFile} {preamble : List Char} :
    readLines number lines = .ok (instructions, files, preamble) ↔
      ∃ head tail, lines = head ++ tail ∧ Preamble number head instructions ∧
        preamble = head.flatten ∧ Archive tail files ∧
        (files.map ArchiveFile.name).Nodup := by
  constructor
  · intro h
    induction lines generalizing number instructions files preamble with
    | nil =>
      cases h
      exact ⟨[], [], rfl, .nil, rfl, .nil, List.nodup_nil⟩
    | cons raw lines ih =>
      rw [readLines] at h
      simp only [Separator.ofLine_splitEnding] at h
      cases hline : Separator.ofLine raw with
      | malformed line => simp [hline] at h
      | named name =>
        simp only [hline] at h
        obtain ⟨⟨data, files'⟩, inner, eq⟩ := map_eq_ok_iff.mp h
        cases eq
        obtain ⟨lead, rest, eq, absent, -, archive, distinct, -⟩ := archive_of_readArchive inner
        cases lead with
        | nil =>
          rw [List.nil_append] at eq
          exact ⟨[], _, rfl, .nil, rfl, eq ▸ archive, distinct⟩
        | cons line lead =>
          obtain ⟨rfl, -⟩ := List.cons.inj eq
          simp [absent raw List.mem_cons_self] at hline
      | absent =>
        simp only [hline] at h
        cases hread : readPreambleLine number (splitEnding raw).1 with
        | error fault => simp [hread] at h
        | ok found =>
          simp only [hread] at h
          obtain ⟨⟨instructions', files', preamble'⟩, inner, eq⟩ := map_eq_ok_iff.mp h
          cases eq
          obtain ⟨head, tail, rfl, before, rfl, archive, distinct⟩ := ih inner
          exact ⟨raw :: head, tail, rfl, .cons hline hread before, rfl, archive, distinct⟩
  · rintro ⟨head, tail, rfl, before, rfl, archive, distinct⟩
    induction before with
    | @nil number =>
      cases archive with
      | nil => rfl
      | file named absent rest =>
        have reads := readArchive_of_archive (.file named absent rest) number [] distinct
          (by simp)
        rw [List.nil_append, List.cons_append, readLines]
        rw [List.cons_append] at reads
        simp only [Separator.ofLine_splitEnding, named, reads]
        rfl
    | cons absent reads _ ih =>
      rw [List.cons_append, readLines]
      simp only [Separator.ofLine_splitEnding, absent, reads, ih]
      rfl

/-- Reading accepts exactly the scripts that the grammar derives. -/
theorem parse_eq_ok_iff {source : String} {s : Script} :
    parse source = .ok s ↔
      ∃ head tail, splitLines source.toList = head ++ tail ∧ Preamble 1 head s.instructions ∧
        s.preamble.toList = head.flatten ∧ Archive tail s.files ∧
        (s.files.map ArchiveFile.name).Nodup := by
  rw [parse, map_eq_ok_iff]
  constructor
  · rintro ⟨⟨instructions, files, preamble⟩, reads, rfl⟩
    obtain ⟨head, tail, eq, before, rfl, archive, distinct⟩ := readLines_eq_ok_iff.mp reads
    exact ⟨head, tail, eq, before, by simp, archive, distinct⟩
  · rintro ⟨head, tail, eq, before, text, archive, distinct⟩
    refine ⟨(s.instructions, s.files, head.flatten), ?_, ?_⟩
    · exact readLines_eq_ok_iff.mpr ⟨head, tail, eq, before, rfl, archive, distinct⟩
    · obtain ⟨_, _, _⟩ := s
      simp only [← text, String.ofList_toList]

end Script
end ScriptSuite
