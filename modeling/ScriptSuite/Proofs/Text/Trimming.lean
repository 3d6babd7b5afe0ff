import Mathlib.Data.List.DropRight
import ScriptSuite.Text.Blank

/-!
What trimming takes away.

Trimming takes away blanks at an end and nothing else (`exists_trimEnd`, `exists_trim`),
it does not see blanks that are put at the end (`trimEnd_append_blanks`), and trimming
again changes nothing (`trim_trim`).
-/

namespace ScriptSuite.Text

/-- A text that holds blanks only. -/
def Blanks (cs : List Char) : Prop := ∀ c ∈ cs, isBlank c = true

/-- Trimming the end is dropping from the right while there are blanks. -/
theorem trimEnd_eq_rdropWhile (cs : List Char) : trimEnd cs = cs.rdropWhile isBlank := by
  induction cs with
  | nil => rfl
  | cons c cs ih =>
    rw [List.rdropWhile, List.reverse_cons, List.dropWhile_append]
    rw [List.rdropWhile] at ih
    unfold trimEnd
    rw [ih]
    cases h : cs.reverse.dropWhile isBlank with
    | nil => by_cases hc : isBlank c <;> simp [hc]
    | cons d ds =>
      obtain ⟨e, es, he⟩ := List.exists_cons_of_ne_nil (show (d :: ds).reverse ≠ [] by simp)
      simp only [he, List.isEmpty_cons, Bool.false_eq_true, if_false, List.reverse_append,
        List.reverse_singleton, List.singleton_append]

/-- Trimming does not see blanks at the end. -/
theorem trimEnd_append_blanks (cs : List Char) {bs : List Char} (h : Blanks bs) :
    trimEnd (cs ++ bs) = trimEnd cs := by
  rw [trimEnd_eq_rdropWhile, trimEnd_eq_rdropWhile, List.rdropWhile, List.reverse_append,
    List.dropWhile_append_of_pos fun c hc => h c (List.mem_reverse.mp hc), List.rdropWhile]

/-- What trimming the end takes away is blank. -/
theorem exists_trimEnd (cs : List Char) : ∃ bs, Blanks bs ∧ cs = trimEnd cs ++ bs := by
  refine ⟨cs.rtakeWhile isBlank, fun c hc => List.mem_rtakeWhile_imp hc, ?_⟩
  rw [trimEnd_eq_rdropWhile, List.rdropWhile_append_rtakeWhile]

theorem trimEnd_trimEnd (cs : List Char) : trimEnd (trimEnd cs) = trimEnd cs := by
  simp only [trimEnd_eq_rdropWhile, List.rdropWhile_idempotent]

/-- A text that ends with another character than a blank stays as it is. -/
theorem trimEnd_concat {c : Char} (cs : List Char) (h : isBlank c = false) :
    trimEnd (cs ++ [c]) = cs ++ [c] := by
  rw [trimEnd_eq_rdropWhile, List.rdropWhile_concat_neg _ _ _ (by simp [h])]

theorem trimStart_trimStart (cs : List Char) : trimStart (trimStart cs) = trimStart cs :=
  List.dropWhile_idempotent ..

/-- What trimming the start takes away is blank. -/
theorem exists_trimStart (cs : List Char) : ∃ bs, Blanks bs ∧ cs = bs ++ trimStart cs :=
  ⟨cs.takeWhile isBlank, fun _ hc => List.mem_takeWhile_imp hc,
    (List.takeWhile_append_dropWhile).symm⟩

/-- What trimming takes away is blank. -/
theorem exists_trim (cs : List Char) :
    ∃ as bs, Blanks as ∧ Blanks bs ∧ cs = as ++ trim cs ++ bs := by
  obtain ⟨as, has, eqStart⟩ := exists_trimStart cs
  obtain ⟨bs, hbs, eqEnd⟩ := exists_trimEnd (trimStart cs)
  refine ⟨as, bs, has, hbs, ?_⟩
  rw [trim, List.append_assoc, ← eqEnd, ← eqStart]

/-- A text whose first character is not blank keeps it when its end is trimmed. -/
theorem trimStart_trimEnd_of_trimStart {cs : List Char} (h : trimStart cs = cs) :
    trimStart (trimEnd cs) = trimEnd cs := by
  cases cs with
  | nil => rfl
  | cons c cs =>
    have hc : isBlank c = false := by
      cases hb : isBlank c with
      | false => rfl
      | true =>
        have shorter := (List.dropWhile_suffix (p := isBlank) (l := cs)).length_le
        rw [trimStart, List.dropWhile_cons_of_pos hb] at h
        rw [h, List.length_cons] at shorter
        omega
    cases ht : trimEnd (c :: cs) with
    | nil => rfl
    | cons d ds =>
      have hd : d = c := by
        obtain ⟨bs, -, eq⟩ := exists_trimEnd (c :: cs)
        rw [ht, List.cons_append, List.cons.injEq] at eq
        exact eq.1.symm
      rw [trimStart, List.dropWhile_cons_of_neg (by simp [hd, hc])]

/-- Trimming again changes nothing. -/
theorem trim_trim (cs : List Char) : trim (trim cs) = trim cs := by
  have h := trimStart_trimEnd_of_trimStart (trimStart_trimStart cs)
  rw [trim, trim, h, trimEnd_trimEnd]

/-- The characters of a trimmed text are among those of the text. -/
theorem mem_of_mem_trim {c : Char} {cs : List Char} (h : c ∈ trim cs) : c ∈ cs := by
  obtain ⟨as, bs, -, -, eq⟩ := exists_trim cs
  rw [eq]
  exact List.mem_append_left _ (List.mem_append_right _ h)

/-! ### Fixed text at an end -/

theorem dropLead?_eq_some_iff {lead cs rest : List Char} :
    dropLead? lead cs = some rest ↔ cs = lead ++ rest := by
  induction lead generalizing cs with
  | nil => simp [dropLead?]
  | cons a lead ih =>
    cases cs with
    | nil => simp [dropLead?]
    | cons c cs =>
      by_cases h : a = c
      · simp [dropLead?, h, ih]
      · simp [dropLead?, h, Ne.symm h]

theorem occursIn_iff {needle cs : List Char} : occursIn needle cs = true ↔ needle <:+: cs := by
  induction cs with
  | nil => simp [occursIn]
  | cons c cs ih =>
    rw [occursIn, Bool.or_eq_true, ih, Option.isSome_iff_exists, List.infix_cons_iff]
    apply or_congr_left
    constructor
    · rintro ⟨rest, lead⟩
      exact ⟨rest, (dropLead?_eq_some_iff.mp lead).symm⟩
    · rintro ⟨rest, whole⟩
      exact ⟨rest, dropLead?_eq_some_iff.mpr whole.symm⟩

theorem dropTail?_eq_some_iff {tail cs rest : List Char} :
    dropTail? tail cs = some rest ↔ cs = rest ++ tail := by
  rw [dropTail?, Option.map_eq_some_iff]
  constructor
  · rintro ⟨front, h, rfl⟩
    have eq := congrArg List.reverse (dropLead?_eq_some_iff.mp h)
    rw [List.reverse_reverse, List.reverse_append, List.reverse_reverse] at eq
    exact eq
  · rintro rfl
    exact ⟨rest.reverse, dropLead?_eq_some_iff.mpr (by simp), by simp⟩

end ScriptSuite.Text
