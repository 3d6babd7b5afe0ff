import Mathlib.Data.List.Basic
import ScriptSuite.Text.Line

/-!
The lines of a text.

`Lines` says which lists are the raw lines of a text: every line but the last ends with a
line feed, and no line holds another. A text and its raw lines determine each other
(`splitLines_eq_iff`), so that a text can be read line by line and written line by line.
-/

namespace ScriptSuite.Text

/-- A raw line that ends with a line feed and holds no other. -/
def Closed (raw : List Char) : Prop := ∃ text, '\n' ∉ text ∧ raw = text ++ ['\n']

/-- The raw lines of a text. -/
inductive Lines : List (List Char) → Prop where
  | nil : Lines []
  | last {raw : List Char} : raw ≠ [] → '\n' ∉ raw → Lines [raw]
  | cons {raw : List Char} {rest : List (List Char)} : Closed raw → Lines rest →
      Lines (raw :: rest)

theorem Closed.ne_nil {raw : List Char} (h : Closed raw) : raw ≠ [] := by
  obtain ⟨text, -, rfl⟩ := h
  simp

namespace Lines

theorem ne_nil {ls : List (List Char)} (h : Lines ls) : ∀ raw ∈ ls, raw ≠ [] := by
  induction h with
  | nil => simp
  | last ne _ => simpa using ne
  | cons closed _ ih =>
    intro raw mem
    rcases List.mem_cons.mp mem with rfl | mem
    · exact closed.ne_nil
    · exact ih raw mem

theorem append {as bs : List (List Char)} (has : ∀ raw ∈ as, Closed raw) (hbs : Lines bs) :
    Lines (as ++ bs) := by
  induction as with
  | nil => exact hbs
  | cons a as ih =>
    exact .cons (has a List.mem_cons_self) (ih fun raw mem => has raw (List.mem_cons_of_mem _ mem))

theorem tail {raw : List Char} {rest : List (List Char)} (h : Lines (raw :: rest)) :
    Lines rest := by
  cases h with
  | last _ _ => exact .nil
  | cons _ rest => exact rest

theorem closed_head {raw : List Char} {rest : List (List Char)} (h : Lines (raw :: rest))
    (ne : rest ≠ []) : Closed raw := by
  cases h with
  | last _ _ => contradiction
  | cons closed _ => exact closed

theorem right {as bs : List (List Char)} (h : Lines (as ++ bs)) : Lines bs := by
  induction as with
  | nil => exact h
  | cons a as ih => exact ih h.tail

/-- Lines that are followed by another are closed. -/
theorem closed_left {as bs : List (List Char)} (h : Lines (as ++ bs)) (ne : bs ≠ []) :
    ∀ raw ∈ as, Closed raw := by
  induction as with
  | nil => simp
  | cons a as ih =>
    intro raw mem
    rcases List.mem_cons.mp mem with rfl | mem
    · exact h.closed_head (by simp [ne])
    · exact ih h.tail raw mem

theorem left {as bs : List (List Char)} (h : Lines (as ++ bs)) : Lines as := by
  cases bs with
  | nil => simpa using h
  | cons b bs => simpa using append (h.closed_left (by simp)) .nil

/-- A text without a line feed can be put in front of the first line. -/
theorem prepend {text raw : List Char} {rest : List (List Char)} (h : Lines (raw :: rest))
    (notMem : '\n' ∉ text) : Lines ((text ++ raw) :: rest) := by
  cases h with
  | last ne notMem' => exact .last (by simp [ne]) (by simp [notMem, notMem'])
  | cons closed rest =>
    obtain ⟨front, notMem', rfl⟩ := closed
    exact .cons ⟨text ++ front, by simp [notMem, notMem'], by simp⟩ rest

end Lines

/-! ### Cutting and gluing -/

theorem splitLines_of_not_mem {cs : List Char} (ne : cs ≠ []) (h : '\n' ∉ cs) :
    splitLines cs = [cs] := by
  induction cs with
  | nil => contradiction
  | cons c cs ih =>
    have hc : c ≠ '\n' := fun eq => h (eq ▸ List.mem_cons_self)
    cases cs with
    | nil => simp [splitLines, hc]
    | cons d ds =>
      have := ih (by simp) fun mem => h (List.mem_cons_of_mem _ mem)
      rw [splitLines, if_neg hc, this]

theorem splitLines_closed_append {raw : List Char} (h : Closed raw) (cs : List Char) :
    splitLines (raw ++ cs) = raw :: splitLines cs := by
  obtain ⟨text, notMem, rfl⟩ := h
  induction text with
  | nil => simp [splitLines]
  | cons c text ih =>
    have hc : c ≠ '\n' := fun eq => notMem (eq ▸ List.mem_cons_self)
    have := ih fun mem => notMem (List.mem_cons_of_mem _ mem)
    rw [List.cons_append, List.cons_append, splitLines, if_neg hc, this]

/-- Lines are those of the text that they make up. -/
theorem Lines.splitLines_flatten {ls : List (List Char)} (h : Lines ls) :
    splitLines ls.flatten = ls := by
  induction h with
  | nil => rfl
  | last ne notMem => simpa using splitLines_of_not_mem ne notMem
  | cons closed _ ih => rw [List.flatten_cons, splitLines_closed_append closed, ih]

/-- Every text has raw lines. -/
theorem lines_splitLines (cs : List Char) : Lines (splitLines cs) := by
  induction cs with
  | nil => exact .nil
  | cons c cs ih =>
    unfold splitLines
    split
    · next hc => exact .cons ⟨[], by simp, by simp [hc]⟩ ih
    · next hc =>
      cases h : splitLines cs with
      | nil => exact .last (by simp) (by simpa using Ne.symm hc)
      | cons line lines =>
        rw [h] at ih
        cases ih with
        | last _ notMem => exact .last (by simp) (by simp [Ne.symm hc, notMem])
        | cons closed rest =>
          obtain ⟨text, notMem, rfl⟩ := closed
          exact .cons ⟨c :: text, by simp [Ne.symm hc, notMem], by simp⟩ rest

/-- The lines of a text are the one way to cut it into lines of which only the last may lack an
ending. -/
theorem splitLines_eq_iff {cs : List Char} {ls : List (List Char)} :
    splitLines cs = ls ↔ Lines ls ∧ ls.flatten = cs := by
  constructor
  · rintro rfl
    exact ⟨lines_splitLines cs, flatten_splitLines cs⟩
  · rintro ⟨h, rfl⟩
    exact h.splitLines_flatten

/-- The last line of a text that ends with a line feed is closed, as all others are. -/
theorem closed_of_mem_splitLines {cs : List Char} (h : cs = [] ∨ endsWithFeed cs = true) :
    ∀ raw ∈ splitLines cs, Closed raw := by
  obtain ⟨ls, hls⟩ : ∃ ls, splitLines cs = ls := ⟨_, rfl⟩
  obtain ⟨lines, rfl⟩ := splitLines_eq_iff.mp hls
  rw [hls]
  clear hls
  induction lines with
  | nil => simp
  | @last raw ne notMem =>
    rcases h with h | h
    · simp [ne] at h
    · simp only [endsWithFeed, List.flatten_singleton, beq_iff_eq] at h
      exact absurd (List.mem_of_getLast? h) notMem
  | @cons raw rest closed _ ih =>
    intro line mem
    rcases List.mem_cons.mp mem with rfl | mem
    · exact closed
    · refine ih ?_ line mem
      rcases h with h | h
      · exact .inl (List.append_eq_nil_iff.mp h).2
      · cases hrest : rest.flatten with
        | nil => exact .inl rfl
        | cons c cs =>
          right
          rw [List.flatten_cons, hrest] at h
          simpa [endsWithFeed] using h

/-- Closed lines make up a text that is empty or ends with a line feed. -/
theorem flatten_closed {ls : List (List Char)} (h : ∀ raw ∈ ls, Closed raw) :
    ls.flatten = [] ∨ endsWithFeed ls.flatten = true := by
  rcases List.eq_nil_or_concat' ls with rfl | ⟨front, raw, rfl⟩
  · exact .inl rfl
  · obtain ⟨text, -, rfl⟩ := h raw (by simp)
    right
    simp [endsWithFeed, ← List.append_assoc]

/-- A text that does not end with a line feed has a last line that is not closed. -/
theorem exists_splitLines_concat {cs : List Char} (ne : cs ≠ [])
    (h : endsWithFeed cs = false) :
    ∃ ls raw, splitLines cs = ls ++ [raw] ∧ raw ≠ [] ∧ '\n' ∉ raw ∧ ∀ l ∈ ls, Closed l := by
  have lines := lines_splitLines cs
  obtain ⟨ls, raw, eq⟩ : ∃ ls raw, splitLines cs = ls ++ [raw] := by
    refine ⟨_, _, (List.dropLast_append_getLast fun nil => ne ?_).symm⟩
    rw [← flatten_splitLines cs, nil, List.flatten_nil]
  rw [eq] at lines
  refine ⟨ls, raw, eq, lines.ne_nil raw (by simp), ?_, lines.closed_left (by simp)⟩
  cases lines.right with
  | last _ notMem => exact notMem
  | cons closed _ =>
    have := flatten_splitLines cs
    rw [eq, List.flatten_concat] at this
    obtain ⟨text, -, rfl⟩ := closed
    simp [← this, endsWithFeed, ← List.append_assoc] at h

/-! ### Endings -/

theorem splitEnding_cons {c : Char} {cs : List Char} (hc : c ≠ '\n')
    (hr : c = '\r' → cs ≠ ['\n']) :
    splitEnding (c :: cs) = (c :: (splitEnding cs).1, (splitEnding cs).2) := by
  rw [splitEnding]
  · exact fun eq => absurd eq hc
  · exact fun eq => hr eq

/-- A line feed is taken together with a carriage return in front of it, and nothing else is
taken. -/
theorem splitEnding_append_chars {text : List Char} {ending : Ending} (h : '\n' ∉ text)
    (hr : ending = .lineFeed → text.getLast? ≠ some '\r') :
    splitEnding (text ++ ending.chars) = (text, ending) := by
  induction text with
  | nil => cases ending <;> rfl
  | cons c text ih =>
    have hc : c ≠ '\n' := fun eq => h (eq ▸ List.mem_cons_self)
    have notMem : '\n' ∉ text := fun mem => h (List.mem_cons_of_mem _ mem)
    have hrest : c = '\r' → text ++ ending.chars ≠ ['\n'] := by
      rintro rfl eq
      cases text with
      | nil =>
        cases ending with
        | bare => simp [Ending.chars] at eq
        | lineFeed => exact hr rfl rfl
        | returnFeed => simp [Ending.chars] at eq
      | cons d ds => simp_all
    rw [List.cons_append, splitEnding_cons hc hrest, ih notMem]
    intro feed
    have := hr feed
    cases text with
    | nil => simp
    | cons d ds => simpa using this

theorem splitEnding_of_not_mem {raw : List Char} (h : '\n' ∉ raw) :
    splitEnding raw = (raw, .bare) := by
  simpa [Ending.chars] using @splitEnding_append_chars raw .bare h (by simp)

/-- A closed line has an ending, and its text holds no line feed. -/
theorem Closed.exists_splitEnding {raw : List Char} (h : Closed raw) :
    ∃ text ending, splitEnding raw = (text, ending) ∧ '\n' ∉ text ∧ ending ≠ .bare := by
  obtain ⟨text, notMem, rfl⟩ := h
  by_cases hr : text.getLast? = some '\r'
  · obtain ⟨front, rfl⟩ := List.getLast?_eq_some_iff.mp hr
    have hfront : '\n' ∉ front := fun mem => notMem (List.mem_append_left _ mem)
    refine ⟨front, .returnFeed, ?_, hfront, by simp⟩
    simpa [Ending.chars] using @splitEnding_append_chars front .returnFeed hfront (by simp)
  · refine ⟨text, .lineFeed, ?_, notMem, by simp⟩
    simpa [Ending.chars] using @splitEnding_append_chars text .lineFeed notMem fun _ => hr

/-- The text of a line holds no line feed. -/
theorem Lines.noFeed {lines : List (List Char)} (h : Lines lines) :
    ∀ raw ∈ lines, '\n' ∉ (splitEnding raw).1 := by
  induction h with
  | nil => simp
  | last _ notMem => simpa [splitEnding_of_not_mem notMem] using notMem
  | cons closed _ ih =>
    obtain ⟨text, ending, eq, notMem, -⟩ := closed.exists_splitEnding
    exact List.forall_mem_cons.mpr ⟨by rwa [eq], ih⟩

/-! ### A line feed at the end -/

/-- A text that is empty or ends with a line feed is normal already. -/
theorem normalize_eq_self {cs : List Char} (h : cs = [] ∨ endsWithFeed cs = true) :
    normalize cs = cs := by
  rcases h with rfl | h
  · rfl
  · simp [normalize, h]

theorem normalize_eq_append {cs : List Char} (ne : cs ≠ []) (h : endsWithFeed cs = false) :
    normalize cs = cs ++ ['\n'] := by
  simp [normalize, h, ne]

/-- A normalized text is empty or ends with a line feed. -/
theorem normalize_closed (cs : List Char) :
    normalize cs = [] ∨ endsWithFeed (normalize cs) = true := by
  by_cases ne : cs = []
  · exact .inl (by simp [ne, normalize])
  · cases h : endsWithFeed cs with
    | true => exact .inr (by rw [normalize_eq_self (.inr h), h])
    | false => exact .inr (by simp [normalize_eq_append ne h, endsWithFeed])

/-- A property of lines that does not see a line feed at their end holds of a normalized text
as it does of the text. -/
theorem forall_splitLines_normalize {p : List Char → Prop}
    (feed : ∀ raw, p (raw ++ ['\n']) ↔ p raw) (cs : List Char) :
    (∀ raw ∈ splitLines (normalize cs), p raw) ↔ ∀ raw ∈ splitLines cs, p raw := by
  by_cases ne : cs = []
  · simp [ne, normalize]
  · cases h : endsWithFeed cs with
    | true => rw [normalize_eq_self (.inr h)]
    | false =>
      obtain ⟨ls, raw, eq, -, notMem, closed⟩ := exists_splitLines_concat ne h
      have split : splitLines (normalize cs) = ls ++ [raw ++ ['\n']] := by
        rw [normalize_eq_append ne h]
        refine splitLines_eq_iff.mpr ⟨.append closed (.cons ⟨raw, notMem, rfl⟩ .nil), ?_⟩
        rw [← flatten_splitLines cs, eq]
        simp
      rw [split, eq]
      simp [List.mem_append, or_imp, forall_and, feed]

end ScriptSuite.Text
