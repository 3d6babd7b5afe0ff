import ScriptSuite.Proofs.Script.Grammar

/-!
Where the reading of a script stops.

Reading stops at the first line with a fault. The lines before it make up a script of their own,
and what comes after it does not matter (`Stops`). This is so before the archive and in it
(`readArchive_stops`, `readLines_stops`), hence an error tells the line that it is about, and any
text that begins with the lines up to there has the same error (`parse_stops_at_line`).
-/

namespace ScriptSuite.Script

open Text

/-- The first lines of a text, with their endings. -/
def firstLines (count : Nat) (source : String) : String :=
  String.ofList ((splitLines source.toList).take count).flatten

/-- Reading lines from line `number` on stops at one of them: those before it can be read, and
the error is the same whatever comes after it. -/
def Stops {α : Type} (read : List (List Char) → Except ParseError α) (number : Nat)
    (lines : List (List Char)) (e : ParseError) : Prop :=
  ∃ before bad after, lines = before ++ bad :: after ∧ e.line = number + before.length ∧
    (∃ found, read before = .ok found) ∧ ∀ others, read (before ++ bad :: others) = .error e

section

variable {α β : Type} {read : List (List Char) → Except ParseError α} {number : Nat}
  {raw : List Char} {rest : List (List Char)} {e : ParseError}

/-- Reading stops at the first line. -/
theorem Stops.here {fault : Fault} (reads : ∃ found, read [] = .ok found)
    (fails : ∀ rest, read (raw :: rest) = .error ⟨number, fault⟩) :
    Stops read number (raw :: rest) ⟨number, fault⟩ :=
  ⟨[], raw, rest, rfl, rfl, reads, fails⟩

/-- Reading goes on after the first line, and stops later. -/
theorem Stops.later {next : List (List Char) → Except ParseError β} {f : β → α}
    (step : ∀ rest, read (raw :: rest) = (next rest).map f)
    (stops : Stops next (number + 1) rest e) : Stops read number (raw :: rest) e := by
  obtain ⟨before, bad, after, rfl, line, ⟨found, reads⟩, fails⟩ := stops
  refine ⟨raw :: before, bad, after, rfl, ?_, ⟨f found, ?_⟩, ?_⟩
  · rw [line, List.length_cons, Nat.add_right_comm, Nat.add_assoc]
  · rw [step, reads]
    rfl
  · intro others
    rw [List.cons_append, step, fails]
    rfl

end

/-! ### Lines of the archive -/

theorem readArchive_stops {number : Nat} {names lines : List (List Char)} {e : ParseError}
    (failed : readArchive number names lines = .error e) :
    Stops (readArchive number names) number lines e := by
  induction lines generalizing number names with
  | nil => cases failed
  | cons raw rest ih =>
    cases kind : Separator.ofLine raw with
    | malformed line =>
      have fails (rest : List (List Char)) : readArchive number names (raw :: rest) =
          .error ⟨number, .malformedSeparator (String.ofList line)⟩ := by
        simp [readArchive, Separator.ofLine_splitEnding, kind]
      cases failed.symm.trans (fails rest)
      exact .here ⟨_, rfl⟩ fails
    | absent =>
      have step (rest : List (List Char)) : readArchive number names (raw :: rest) =
          (readArchive (number + 1) names rest).map
            fun found => (raw ++ found.1, found.2) := by
        simp [readArchive, Separator.ofLine_splitEnding, kind]
      rw [step] at failed
      exact .later step (ih (map_eq_error_iff.mp failed))
    | named name =>
      by_cases taken : names.contains name = true
      · have fails (rest : List (List Char)) : readArchive number names (raw :: rest) =
            .error ⟨number, .duplicateFile (String.ofList name)⟩ := by
          simp only [readArchive, Separator.ofLine_splitEnding, kind, if_pos taken]
        cases failed.symm.trans (fails rest)
        exact .here ⟨_, rfl⟩ fails
      · have step (rest : List (List Char)) : readArchive number names (raw :: rest) =
            (readArchive (number + 1) (name :: names) rest).map fun found =>
              ([], ⟨String.ofList name, encode found.1, (splitEnding raw).2⟩ :: found.2) := by
          simp only [readArchive, Separator.ofLine_splitEnding, kind, if_neg taken]
        rw [step] at failed
        exact .later step (ih (map_eq_error_iff.mp failed))

/-! ### Lines of a script -/

/-- Reading that fails in a line fails there whatever follows it. -/
theorem readLines_stops {number : Nat} {lines : List (List Char)} {e : ParseError}
    (failed : readLines number lines = .error e) : Stops (readLines number) number lines e := by
  induction lines generalizing number with
  | nil => cases failed
  | cons raw rest ih =>
    cases kind : Separator.ofLine raw with
    | malformed line =>
      have fails (rest : List (List Char)) : readLines number (raw :: rest) =
          .error ⟨number, .malformedSeparator (String.ofList line)⟩ := by
        simp [readLines, Separator.ofLine_splitEnding, kind]
      cases failed.symm.trans (fails rest)
      exact .here ⟨_, rfl⟩ fails
    | named name =>
      -- the first separator has no name before it that it could repeat
      have step (rest : List (List Char)) : readLines number (raw :: rest) =
          (readArchive (number + 1) [name] rest).map fun found =>
            ([], ⟨String.ofList name, encode found.1, (splitEnding raw).2⟩ :: found.2, []) := by
        simp only [readLines, readArchive, Separator.ofLine_splitEnding, kind]
        cases readArchive (number + 1) [name] rest <;> rfl
      rw [step] at failed
      exact .later step (readArchive_stops (map_eq_error_iff.mp failed))
    | absent =>
      cases reads : readPreambleLine number (splitEnding raw).1 with
      | error fault =>
        have fails (rest : List (List Char)) :
            readLines number (raw :: rest) = .error ⟨number, fault⟩ := by
          simp [readLines, Separator.ofLine_splitEnding, kind, reads]
        cases failed.symm.trans (fails rest)
        exact .here ⟨_, rfl⟩ fails
      | ok instruction =>
        have step (rest : List (List Char)) : readLines number (raw :: rest) =
            (readLines (number + 1) rest).map fun found =>
              (instruction.toList ++ found.1, found.2.1, raw ++ found.2.2) := by
          simp [readLines, Separator.ofLine_splitEnding, kind, reads]
        rw [step] at failed
        exact .later step (ih (map_eq_error_iff.mp failed))

/-! ### Scripts -/

/-- The first lines of a source have the same lines as the source itself. -/
theorem splitLines_firstLines (count : Nat) (source : String) :
    splitLines (firstLines count source).toList = (splitLines source.toList).take count := by
  rw [firstLines, String.toList_ofList]
  apply Lines.splitLines_flatten
  have lines := lines_splitLines source.toList
  rw [← List.take_append_drop count (splitLines source.toList)] at lines
  exact lines.left

/-- An error tells the first bad line: it is a line of the source, the lines before it are a script
on their own, and every source that begins with the lines up to it has the same error. -/
theorem parse_stops_at_line {source : String} {e : ParseError} (failed : parse source = .error e) :
    1 ≤ e.line ∧ e.line ≤ (splitLines source.toList).length ∧
      (∃ s, parse (firstLines (e.line - 1) source) = .ok s) ∧
      ∀ other : String,
        (splitLines other.toList).take e.line = (splitLines source.toList).take e.line →
        parse other = .error e := by
  obtain ⟨before, bad, after, lines, line, ⟨found, reads⟩, fails⟩ :=
    readLines_stops (map_eq_error_iff.mp failed)
  have count : e.line = before.length + 1 := by rw [line, Nat.add_comm]
  have upTo : before ++ [bad] = (splitLines source.toList).take e.line := by
    rw [lines, count, List.append_cons before bad after]
    exact (List.take_left' (by simp)).symm
  refine ⟨by omega, ?_, ?_, ?_⟩
  · rw [lines, count, List.length_append, List.length_cons]
    omega
  · have short : (splitLines source.toList).take (e.line - 1) = before := by
      rw [lines, count, Nat.add_sub_cancel]
      exact List.take_left
    rw [parse, splitLines_firstLines, short, reads]
    exact ⟨_, rfl⟩
  · intro other same
    have begins : splitLines other.toList =
        before ++ bad :: (splitLines other.toList).drop e.line := by
      rw [List.append_cons, upTo, ← same, List.take_append_drop]
    rw [parse, begins, fails]
    rfl

/-- A name that is used twice is an error of the second separator, whatever the data after it. -/
theorem parse_stops_at_line_duplicate :
    parse "exec p\n-- a --\nx\r\n-- a --\ny\n" = .error ⟨4, .duplicateFile "a"⟩ ∧
      (∃ s, parse "exec p\n-- a --\nx\r\n" = .ok s) ∧
      parse "exec p\n-- a --\nx\r\n-- a --\n-- --\n" = .error ⟨4, .duplicateFile "a"⟩ := by
  have failed : parse "exec p\n-- a --\nx\r\n-- a --\ny\n" = .error ⟨4, .duplicateFile "a"⟩ := rfl
  obtain ⟨-, -, front, others⟩ := parse_stops_at_line failed
  exact ⟨failed, front, others "exec p\n-- a --\nx\r\n-- a --\n-- --\n" (by decide)⟩

end ScriptSuite.Script
