import ScriptSuite.Proofs.Script.Grammar
import ScriptSuite.Proofs.Text.Utf8
import ScriptSuite.Script.Source

/-!
Writing a script as it was read.

A script is written line by line (`toSource_of_parse`): the blanks that a separator had
around its name and at its end are lost, and every other character is as in the source. So
the source is reproduced exactly if its separators are spelled as they are written
(`toSource_eq_iff`).
-/

namespace ScriptSuite

open Text

namespace Separator

/-- A raw line as it is written. -/
def rewritten (raw : List Char) : List Char :=
  match ofLine raw with
  | .named name => line name ++ (splitEnding raw).2.chars
  | _ => raw

theorem rewritten_of_absent {raw : List Char} (h : ofLine raw = .absent) :
    rewritten raw = raw := by
  rw [rewritten, h]

/-- A separator line is written with single blanks, and keeps its ending. -/
theorem rewritten_of_named {raw name : List Char} (h : ofLine raw = .named name) :
    rewritten raw = line name ++ (splitEnding raw).2.chars := by
  rw [rewritten, h]

/-- A line stays as it is if it is no separator, or one whose text is written that way. -/
theorem rewritten_eq_self_iff {raw : List Char} :
    rewritten raw = raw ↔
      ∀ name, ofLine raw = .named name → (splitEnding raw).1 = line name := by
  constructor
  · intro eq name named
    rw [rewritten_of_named named] at eq
    exact (List.append_cancel_right (eq.trans (splitEnding_append raw).symm)).symm
  · intro h
    cases hline : ofLine raw with
    | absent => exact rewritten_of_absent hline
    | malformed text => rw [rewritten, hline]
    | named name => rw [rewritten_of_named hline, ← h name hline, splitEnding_append]

/-- Writing takes characters away, and adds none. -/
theorem length_rewritten_le (raw : List Char) :
    (rewritten raw).length ≤ raw.length ∧
      ((rewritten raw).length = raw.length → rewritten raw = raw) := by
  cases hline : ofLine raw with
  | absent => simp [rewritten, hline]
  | malformed text => simp [rewritten, hline]
  | named name =>
    have whole := congrArg List.length (splitEnding_append raw)
    rw [List.length_append] at whole
    obtain ⟨le, same⟩ := length_line_le ((ofLine_splitEnding raw).trans hline)
    rw [rewritten_of_named hline, List.length_append]
    refine ⟨by omega, fun eq => ?_⟩
    rw [← same (by omega), splitEnding_append]

/-- A line that is written otherwise than it was is not made up for by the others. -/
theorem flatten_map_rewritten_eq_iff {ls : List (List Char)} :
    (ls.map rewritten).flatten = ls.flatten ↔ ∀ raw ∈ ls, rewritten raw = raw := by
  have shorter : ∀ ls : List (List Char),
      (ls.map rewritten).flatten.length ≤ ls.flatten.length := by
    intro ls
    induction ls with
    | nil => simp
    | cons raw ls ih =>
      have := (length_rewritten_le raw).1
      simp only [List.map_cons, List.flatten_cons, List.length_append]
      omega
  constructor
  · intro eq
    induction ls with
    | nil => simp
    | cons raw ls ih =>
      rw [List.map_cons, List.flatten_cons, List.flatten_cons] at eq
      have total := congrArg List.length eq
      have := shorter ls
      obtain ⟨le, same⟩ := length_rewritten_le raw
      rw [List.length_append, List.length_append] at total
      have head : rewritten raw = raw := same (by omega)
      rw [head] at eq
      intro line mem
      rcases List.mem_cons.mp mem with rfl | mem
      · exact head
      · exact ih (List.append_cancel_left eq) line mem
  · intro h
    rw [List.map_congr_left h, List.map_id']

end Separator

namespace Script

/-- An archive is written line by line. -/
theorem archiveSource_of_archive {lines : List (List Char)} {files : List ArchiveFile}
    (h : Archive lines files) (cut : Lines lines) :
    archiveSource files = (lines.map Separator.rewritten).flatten := by
  induction h with
  | nil => rfl
  | @file raw name data rest files named absent archive ih =>
    have header : headerOf ⟨String.ofList name, encode data.flatten, (splitEnding raw).2⟩ =
        Separator.rewritten raw := by
      rw [headerOf, Separator.rewritten_of_named named, String.toList_ofList]
    have same : data.map Separator.rewritten = data :=
      (List.map_congr_left fun line mem => Separator.rewritten_of_absent (absent line mem)).trans
        (List.map_id' data)
    rw [List.map_append, List.flatten_append, ← ih cut.right, List.map_cons, List.flatten_cons,
      same]
    cases archive with
    | nil => simp only [archiveSource, header, decodeLossy_encode, List.append_nil]
    | file _ _ _ =>
      have closed : ∀ line ∈ data, Closed line := fun line mem =>
        cut.closed_left (by simp) line (List.mem_cons_of_mem _ mem)
      rw [archiveSource, header, decodeLossy_encode, normalize_eq_self (flatten_closed closed)]
      simp

/-- A script is written line by line. -/
theorem toSource_of_parse {source : String} {s : Script} (h : parse source = .ok s) :
    s.toSource.toList = ((splitLines source.toList).map Separator.rewritten).flatten := by
  obtain ⟨head, tail, eq, before, text, archive, -⟩ := parse_eq_ok_iff.mp h
  have cut : Lines (head ++ tail) := eq ▸ lines_splitLines source.toList
  have same : head.map Separator.rewritten = head :=
    (List.map_congr_left fun line mem =>
      Separator.rewritten_of_absent (before.absent line mem)).trans (List.map_id' head)
  rw [toSource, String.toList_append, String.toList_ofList, text,
    archiveSource_of_archive archive cut.right, eq, List.map_append, List.flatten_append, same]

/-- The source of a script is reproduced exactly if and only if each of its separators is
spelled with a single blank on both sides of the name and nothing after it. -/
theorem toSource_eq_iff {source : String} {s : Script} (h : parse source = .ok s) :
    s.toSource = source ↔
      ∀ text ∈ lineTexts source.toList, ∀ name,
        Separator.ofLine text = .named name → text = Separator.line name := by
  rw [← String.toList_inj, toSource_of_parse h]
  conv_lhs => rhs; rw [← flatten_splitLines source.toList]
  rw [Separator.flatten_map_rewritten_eq_iff, lineTexts, List.forall_mem_map]
  refine forall₂_congr fun raw _ => ?_
  rw [Separator.rewritten_eq_self_iff, Separator.ofLine_splitEnding]

/-- A separator with a single blank on both sides of the name is kept, whatever its ending. -/
theorem toSource_eq_of_single_blanks :
    ∃ s, parse "cmp a b\r\n-- a --\r\none\n-- b --" = .ok s ∧
      s.toSource = "cmp a b\r\n-- a --\r\none\n-- b --" := by
  have reads : ∃ s, parse "cmp a b\r\n-- a --\r\none\n-- b --" = .ok s := ⟨_, rfl⟩
  obtain ⟨s, h⟩ := reads
  refine ⟨s, h, (toSource_eq_iff h).mpr ?_⟩
  have texts : lineTexts "cmp a b\r\n-- a --\r\none\n-- b --".toList =
      ["cmp a b".toList, Separator.line ['a'], "one".toList, Separator.line ['b']] := by decide
  intro text mem name named
  rw [texts] at mem
  simp only [List.mem_cons, List.not_mem_nil, or_false] at mem
  rcases mem with rfl | rfl | rfl | rfl <;> cases named <;> rfl

/-- A second blank before the name is lost. -/
theorem toSource_ne_of_second_blank :
    ¬ ∀ s, parse "--  a --\n" = .ok s → s.toSource = "--  a --\n" := by
  intro h
  have read := h ⟨[], [⟨"a", [], .lineFeed⟩], ""⟩ rfl
  exact absurd read (by decide)

end Script
end ScriptSuite
