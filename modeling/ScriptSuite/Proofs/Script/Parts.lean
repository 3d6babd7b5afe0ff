import Mathlib.Data.List.Forall2
import ScriptSuite.Proofs.Script.Grammar
import ScriptSuite.Proofs.Text.Utf8

/-!
What a script is made of.

Reading a script loses nothing (`parse_parts`): its source is the preamble, and then for each
file of the archive a separator line and the data of the file, byte for byte. The instructions
are the lines of the preamble that are neither blank nor comments, with their numbers. A
separator line gives the name of its file, with blanks around it that do not count
(`separator_ne_line_of_second_blank`).
-/

namespace ScriptSuite

open Text

namespace Separator

/-- The opening and the closing of a separator may share their blank, and nothing else. -/
theorem closing_suffix_iff {rest : List Char} :
    closing <:+ opening ++ rest ↔ closing <:+ rest ∨ rest = ['-', '-'] := by
  constructor
  · intro whole
    by_cases long : closing.length ≤ rest.length
    · exact .inl (List.suffix_of_suffix_length_le whole (List.suffix_append _ _) long)
    · obtain ⟨front, eq⟩ := whole
      have back := congrArg List.reverse eq
      match rest with
      | [] => simp [opening, closing] at back
      | [c] => simp [opening, closing] at back
      | [c, d] =>
        obtain ⟨rfl, rfl, -⟩ : '-' = d ∧ '-' = c ∧ _ := by simpa [opening, closing] using back
        exact .inr rfl
      | c :: d :: e :: more => simp [closing] at long
  · rintro (suffix | rfl)
    · exact suffix.trans (List.suffix_append _ _)
    · exact ⟨['-', '-'], rfl⟩

/-- A line is data unless it has the opening and the closing of a separator. -/
theorem ofLine_eq_absent_iff {line : List Char} :
    ofLine line = .absent ↔ ¬(opening <+: trimEnd line ∧ closing <:+ trimEnd line) := by
  rw [ofLine]
  generalize trimEnd line = text
  cases lead : dropLead? opening text with
  | none =>
    have notPrefix : ¬ opening <+: text := by
      rintro ⟨rest, rfl⟩
      rw [dropLead?_eq_some_iff.mpr rfl] at lead
      cases lead
    simp [notPrefix]
  | some rest =>
    obtain rfl := dropLead?_eq_some_iff.mp lead
    rw [closing_suffix_iff]
    cases tail : dropTail? closing rest with
    | some inner =>
      have suffix : closing <:+ rest := ⟨inner, (dropTail?_eq_some_iff.mp tail).symm⟩
      simp only [tail, suffix, List.prefix_append, true_or, and_self, not_true_eq_false, iff_false]
      split <;> exact Separator.noConfusion
    | none =>
      have notSuffix : ¬ closing <:+ rest := by
        rintro ⟨inner, rfl⟩
        rw [dropTail?_eq_some_iff.mpr rfl] at tail
        cases tail
      simp [tail, notSuffix]

/-- A separator line, trimmed, has its name between the opening and the closing, and blanks that
do not count. -/
theorem exists_trim_of_named {line name : List Char} (h : ofLine line = .named name) :
    ∃ before after, Blanks before ∧ Blanks after ∧
      trim line = opening ++ before ++ name ++ after ++ closing := by
  obtain ⟨inner, eq, rfl, -⟩ := ofLine_eq_named_iff.mp h
  obtain ⟨before, after, hbefore, hafter, split⟩ := exists_trim inner
  refine ⟨before, after, hbefore, hafter, ?_⟩
  obtain ⟨bs, -, whole⟩ := exists_trimEnd line
  have start : trimStart line = line := by
    rw [whole, eq]
    rfl
  rw [trim, start, eq]
  conv_lhs => rw [split]
  simp only [List.append_assoc]

end Separator

namespace Script

/-- A separator line, with its ending, and the data up to the next one. -/
structure Block where
  separator : List Char
  data : List Char

/-- The block is that of a file. -/
structure Block.Holds (b : Block) (f : ArchiveFile) : Prop where
  data : f.data = encode b.data
  /-- Blanks around the name do not count. -/
  separator : ∃ before after, Blanks before ∧ Blanks after ∧
    trim b.separator = Separator.opening ++ before ++ f.name.toList ++ after ++ Separator.closing
  trimmed : trim f.name.toList = f.name.toList
  named : f.name ≠ ""
  /-- No line of the data is a separator, be it malformed. -/
  clear : ∀ line ∈ splitLines b.data,
    ¬(Separator.opening <+: trimEnd line ∧ Separator.closing <:+ trimEnd line)

/-- Whether the text of a line before the archive is an instruction: it is neither blank nor a
comment. -/
def isInstruction (text : List Char) : Bool :=
  !(trim text).isEmpty && (trim text).head? != some '#'

/-- An archive is a sequence of blocks, each of a separator line and the lines of its data. -/
theorem blocks_of_archive {lines : List (List Char)} {files : List ArchiveFile}
    (h : Archive lines files) (cut : Lines lines) :
    ∃ blocks : List Block, lines = blocks.flatMap (fun b => b.separator :: splitLines b.data) ∧
      List.Forall₂ Block.Holds blocks files := by
  induction h with
  | nil => exact ⟨[], rfl, .nil⟩
  | @file raw name data rest files named absent _ ih =>
    obtain ⟨blocks, rfl, holds⟩ := ih cut.right
    have dataLines : splitLines data.flatten = data :=
      splitLines_eq_iff.mpr ⟨Lines.tail cut.left, rfl⟩
    refine ⟨⟨raw, data.flatten⟩ :: blocks, ?_, .cons ?_ holds⟩
    · rw [List.flatMap_cons, dataLines]
    · obtain ⟨inner, -, trimmed, ne⟩ := Separator.ofLine_eq_named_iff.mp named
      refine ⟨rfl, ?_, ?_, ?_, ?_⟩
      · rw [String.toList_ofList]
        exact Separator.exists_trim_of_named named
      · rw [String.toList_ofList, ← trimmed, trim_trim]
      · intro empty
        exact ne (String.ofList_inj.mp empty)
      · intro line mem
        rw [dataLines] at mem
        exact Separator.ofLine_eq_absent_iff.mp (absent line mem)

/-- Blocks make up the text of their lines, byte for byte. -/
theorem flatMap_zip_blocks {blocks : List Block} {files : List ArchiveFile}
    (h : List.Forall₂ Block.Holds blocks files) :
    (blocks.zip files).flatMap (fun entry => encode entry.1.separator ++ entry.2.data) =
      encode (blocks.flatMap fun b => b.separator :: splitLines b.data).flatten := by
  induction h with
  | nil => rfl
  | @cons b f blocks files holds _ ih =>
    rw [List.zip_cons_cons, List.flatMap_cons, ih, List.flatMap_cons, List.flatten_append,
      List.flatten_cons, flatten_splitLines, encode_append, encode_append, holds.data]

/-- An instruction that has been read has the number and the text of its line. -/
theorem ofLine_eq_ok {number : Nat} {text : List Char} {inst : Instruction}
    (h : Instruction.ofLine number text = .ok inst) :
    inst.line = number ∧ inst.text = String.ofList text := by
  rw [Instruction.ofLine] at h
  split at h
  · contradiction
  · dsimp only at h
    split at h
    · contradiction
    · contradiction
    · split at h
      · contradiction
      · cases h
        exact ⟨rfl, rfl⟩

/-- A line before the archive that can be read is an instruction, or nothing. -/
theorem readPreambleLine_eq_ok {number : Nat} {text : List Char} {found : Option Instruction}
    (h : readPreambleLine number text = .ok found) :
    (isInstruction text = false ∧ found = none) ∨
      (isInstruction text = true ∧ ∃ inst, found = some inst ∧
        Instruction.ofLine number text = .ok inst) := by
  rw [readPreambleLine] at h
  rw [isInstruction]
  split at h
  · next blank =>
    cases h
    simp [blank]
  · next comment =>
    cases h
    simp [comment]
  · contradiction
  · next notEmpty notComment _ =>
    obtain ⟨inst, reads, rfl⟩ := map_eq_ok_iff.mp h
    refine .inr ⟨?_, inst, rfl, reads⟩
    cases trimmed : trim text with
    | nil => exact absurd trimmed notEmpty
    | cons c cs =>
      have other : c ≠ '#' := fun same => notComment cs (same ▸ trimmed)
      simp [other]

/-- The instructions are the lines before the archive that are neither blank nor comments. -/
theorem instructions_of_preamble {number : Nat} {lines : List (List Char)}
    {instructions : List Instruction} (h : Preamble number lines instructions) :
    instructions.map (fun i => (i.text.toList, i.line)) =
        ((lines.map fun raw => (splitEnding raw).1).zipIdx number).filter
          (fun numbered => isInstruction numbered.1) ∧
      ∀ i ∈ instructions, Instruction.ofLine i.line i.text.toList = .ok i := by
  induction h with
  | nil => exact ⟨rfl, by simp⟩
  | @cons number raw rest found instructions _ reads _ ih =>
    obtain ⟨lines, each⟩ := ih
    rw [List.map_cons, List.zipIdx_cons, List.filter_cons]
    rcases readPreambleLine_eq_ok reads with ⟨none, rfl⟩ | ⟨some, inst, rfl, inner⟩
    · rw [if_neg (by simp [none])]
      exact ⟨lines, each⟩
    · obtain ⟨line, text⟩ := ofLine_eq_ok inner
      have same : (inst.text.toList, inst.line) = ((splitEnding raw).1, number) := by
        rw [line, text, String.toList_ofList]
      rw [if_pos (by simp [some]), ← lines, ← same]
      refine ⟨rfl, List.forall_mem_cons.mpr ⟨?_, each⟩⟩
      rwa [line, text, String.toList_ofList]

/-- Reading a script loses nothing. The lines of its source are those of the preamble, and then
for each file a separator line and the lines of its data; so the source is, byte for byte, the
preamble and for each file its separator line and its data. Names are trimmed, not empty and
pairwise distinct, no line of any data is a separator, and the instructions are exactly the lines
of the preamble that are neither blank nor comments, in order, with their numbers and texts. -/
theorem parse_parts {source : String} {s : Script} (parsed : parse source = .ok s) :
    (∃ blocks : List Block,
      splitLines source.toList = splitLines s.preamble.toList ++
        blocks.flatMap (fun b => b.separator :: splitLines b.data) ∧
      bytesOf source = bytesOf s.preamble ++
        (blocks.zip s.files).flatMap (fun entry => encode entry.1.separator ++ entry.2.data) ∧
      List.Forall₂ Block.Holds blocks s.files) ∧
    (s.files.map ArchiveFile.name).Nodup ∧
    s.instructions.map (fun i => (i.text.toList, i.line)) =
      ((lineTexts s.preamble.toList).zipIdx 1).filter (fun numbered => isInstruction numbered.1) ∧
    ∀ i ∈ s.instructions, Instruction.ofLine i.line i.text.toList = .ok i := by
  obtain ⟨head, tail, split, before, text, archive, distinct⟩ := parse_eq_ok_iff.mp parsed
  have cut : Lines (head ++ tail) := split ▸ lines_splitLines source.toList
  have headLines : splitLines s.preamble.toList = head := by
    rw [text]
    exact cut.left.splitLines_flatten
  obtain ⟨blocks, rfl, holds⟩ := blocks_of_archive archive cut.right
  obtain ⟨lines, each⟩ := instructions_of_preamble before
  refine ⟨⟨blocks, headLines ▸ split, ?_, holds⟩, distinct, ?_, each⟩
  · rw [flatMap_zip_blocks holds, bytesOf, bytesOf, text, ← encode_append, ← List.flatten_append,
      ← split, flatten_splitLines]
  · rw [lines, lineTexts, headLines]

theorem parse_parts_returnFeed :
    ∃ s, parse "# one\r\nexec p\r\n--  a --\r\nb\r\n-- c --" = .ok s ∧
      s.instructions.map (fun i => (i.text.toList, i.line)) = [("exec p".toList, 2)] ∧
      ∃ blocks : List Block, blocks.length = 2 ∧ List.Forall₂ Block.Holds blocks s.files ∧
        bytesOf "# one\r\nexec p\r\n--  a --\r\nb\r\n-- c --" = bytesOf s.preamble ++
          (blocks.zip s.files).flatMap
            (fun entry => encode entry.1.separator ++ entry.2.data) := by
  have reads : ∃ s, parse "# one\r\nexec p\r\n--  a --\r\nb\r\n-- c --" = .ok s ∧
      s.files.length = 2 ∧ s.preamble = "# one\r\nexec p\r\n" := ⟨_, rfl, rfl, by decide⟩
  obtain ⟨s, parsed, two, text⟩ := reads
  obtain ⟨⟨blocks, -, glued, holds⟩, -, instructions, -⟩ := parse_parts parsed
  refine ⟨s, parsed, ?_, blocks, holds.length_eq.trans two, holds, glued⟩
  rw [instructions, text]
  decide

/-- The blanks around a name need not be single ones, so that not every separator line trims to
the one that is written for its name. -/
theorem separator_ne_line_of_second_blank :
    ∃ s, parse "--  a --\n" = .ok s ∧
      ¬ ∃ blocks : List Block,
        bytesOf "--  a --\n" = bytesOf s.preamble ++
          (blocks.zip s.files).flatMap (fun entry => encode entry.1.separator ++ entry.2.data) ∧
        List.Forall₂ (fun b f => f.data = encode b.data ∧
          trim b.separator = Separator.line f.name.toList) blocks s.files := by
  refine ⟨⟨[], [⟨"a", [], .lineFeed⟩], ""⟩, rfl, ?_⟩
  rintro ⟨blocks, glued, holds⟩
  cases holds with
  | @cons b _ _ _ block none =>
    cases none
    obtain ⟨-, trimmed⟩ := block
    have whole : encode "--  a --\n".toList = encode b.separator :=
      glued.trans (by simp [show bytesOf "" = [] from rfl])
    rw [← encode_injective whole] at trimmed
    exact absurd trimmed (by decide)

end Script
end ScriptSuite
