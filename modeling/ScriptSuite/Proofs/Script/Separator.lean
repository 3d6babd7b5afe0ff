import ScriptSuite.Proofs.Text.Lines
import ScriptSuite.Proofs.Text.Trimming
import ScriptSuite.Script.Separator

/-!
What a line is to the archive.

Blanks at the end of a line do not count, line endings included (`ofLine_append_blanks`,
`ofLine_splitEnding`). The name that a separator gives is trimmed (`ofLine_eq_named_iff`),
and written back in its place it is read again (`ofLine_line`).
-/

namespace ScriptSuite.Separator

open Text

/-- Blanks at the end of a line do not count, a return in front of a line feed among them. -/
theorem ofLine_append_blanks (text : List Char) {bs : List Char} (h : Blanks bs) :
    ofLine (text ++ bs) = ofLine text := by
  rw [ofLine, ofLine, trimEnd_append_blanks text h]

theorem blanks_ending (ending : Ending) : Blanks ending.chars := by
  cases ending with
  | bare => simp [Blanks, Ending.chars]
  | lineFeed => simp [Blanks, Ending.chars]; decide
  | returnFeed => simp [Blanks, Ending.chars]; decide

/-- It makes no difference whether a line is read with or without its ending. -/
theorem ofLine_splitEnding (raw : List Char) : ofLine (splitEnding raw).1 = ofLine raw := by
  rw [← ofLine_append_blanks _ (blanks_ending (splitEnding raw).2), splitEnding_append]

theorem ofLine_append_feed (raw : List Char) : ofLine (raw ++ ['\n']) = ofLine raw :=
  ofLine_append_blanks raw (blanks_ending .lineFeed)

/-- A text holds no separator if none of its raw lines is one. -/
theorem occursIn_eq_false_iff {cs : List Char} :
    occursIn cs = false ↔ ∀ raw ∈ splitLines cs, ofLine raw = .absent := by
  simp [occursIn, lineTexts, ofLine_splitEnding]

/-- A line feed at the end makes no line a separator that has not been one. -/
theorem occursIn_normalize (cs : List Char) : occursIn (normalize cs) = occursIn cs := by
  have same := forall_splitLines_normalize (p := fun raw => ofLine raw = .absent)
    (fun raw => by rw [ofLine_append_feed]) cs
  rw [← occursIn_eq_false_iff, ← occursIn_eq_false_iff] at same
  cases h : occursIn cs with
  | false => exact same.mpr h
  | true =>
    cases hn : occursIn (normalize cs) with
    | false => rw [same.mp hn] at h; contradiction
    | true => rfl

/-! ### Names -/

/-- A line is a separator with a name if and only if its trimmed text stands between the signs and
the trimmed name is not empty. -/
theorem ofLine_eq_named_iff {text name : List Char} :
    ofLine text = .named name ↔
      ∃ inner, trimEnd text = opening ++ inner ++ closing ∧ trim inner = name ∧ name ≠ [] := by
  constructor
  · intro h
    unfold ofLine at h
    dsimp only at h
    split at h
    · contradiction
    · next rest lead =>
      split at h
      · next inner tail =>
        split at h
        · contradiction
        · next ne =>
          cases h
          rw [dropLead?_eq_some_iff.mp lead, dropTail?_eq_some_iff.mp tail]
          exact ⟨inner, by simp, rfl, by simpa using ne⟩
      · split at h <;> contradiction
  · rintro ⟨inner, eq, rfl, ne⟩
    have lead : dropLead? opening (trimEnd text) = some (inner ++ closing) :=
      dropLead?_eq_some_iff.mpr (by rw [eq, List.append_assoc])
    have tail : dropTail? closing (inner ++ closing) = some inner :=
      dropTail?_eq_some_iff.mpr rfl
    simp [ofLine, lead, tail, ne]

/-- The separator line of a trimmed name is read as one of that name. -/
theorem ofLine_line {name : List Char} (trimmed : trim name = name) (ne : name ≠ []) :
    ofLine (line name) = .named name := by
  refine ofLine_eq_named_iff.mpr ⟨name, ?_, trimmed, ne⟩
  have : line name = (opening ++ name ++ [' ', '-']) ++ ['-'] := by simp [line, closing]
  rw [this, trimEnd_concat _ (by decide), ← this, line]

/-- A name that has been read is trimmed, and is read from its separator line again. -/
theorem ofLine_line_of_named {text name : List Char} (h : ofLine text = .named name) :
    ofLine (line name) = .named name := by
  obtain ⟨inner, -, rfl, ne⟩ := ofLine_eq_named_iff.mp h
  exact ofLine_line (trim_trim inner) ne

theorem mem_of_named {text name : List Char} (h : ofLine text = .named name) :
    ∀ c ∈ name, c ∈ text := by
  obtain ⟨inner, eq, rfl, -⟩ := ofLine_eq_named_iff.mp h
  obtain ⟨bs, -, split⟩ := exists_trimEnd text
  intro c mem
  rw [split, eq]
  simp [mem_of_mem_trim mem]

/-- A separator is at least as long as the line that is written for its name, and as long
only if it is that line. -/
theorem length_line_le {text name : List Char} (h : ofLine text = .named name) :
    (line name).length ≤ text.length ∧
      ((line name).length = text.length → text = line name) := by
  obtain ⟨inner, eq, rfl, -⟩ := ofLine_eq_named_iff.mp h
  obtain ⟨bs, -, split⟩ := exists_trimEnd text
  obtain ⟨as, cs, -, -, parts⟩ := exists_trim inner
  generalize trim inner = name at parts
  rw [eq, parts] at split
  subst split
  constructor
  · simp [line]
    omega
  · intro same
    simp only [line, List.length_append] at same
    have has : as = [] := List.eq_nil_of_length_eq_zero (by omega)
    have hcs : cs = [] := List.eq_nil_of_length_eq_zero (by omega)
    have hbs : bs = [] := List.eq_nil_of_length_eq_zero (by omega)
    simp [line, has, hcs, hbs]

end ScriptSuite.Separator
