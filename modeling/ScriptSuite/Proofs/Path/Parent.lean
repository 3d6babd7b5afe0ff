import ScriptSuite.Proofs.Path.Cleaning

/-!
The parent of a path.

The parent of an absolute path has its steps but the last (`components_parent?`), although it is
cut from the text, where segments that do not count may stand behind every step.
-/

namespace ScriptSuite.Path

open Text (splitAtEach)

variable {p q : Path} {segments : List (List Char)}

/-! ### Segments at the end that do not count -/

/-- What is cut off does not count, and what remains ends with a segment that does. -/
theorem exists_trimSegments (segments : List (List Char)) :
    ∃ off, segments = trimSegments segments ++ off ∧ off.filterMap segment? = [] ∧
      ∀ last ∈ (trimSegments segments).getLast?, (segment? last).isSome = true := by
  induction segments with
  | nil => exact ⟨[], rfl, rfl, nofun⟩
  | cons s rest ih =>
    obtain ⟨off, split, quiet, ends⟩ := ih
    rw [trimSegments]
    cases kept : trimSegments rest with
    | nil =>
      rw [kept, List.nil_append] at split
      cases counts : segment? s with
      | none => exact ⟨s :: off, by rw [split]; rfl, by simp [counts, quiet], nofun⟩
      | some step =>
        refine ⟨off, by rw [split]; rfl, quiet, ?_⟩
        simp [counts]
    | cons t more =>
      rw [kept] at split ends
      exact ⟨off, by rw [split]; rfl, quiet, by simpa using ends⟩

theorem filterMap_trimSegments (segments : List (List Char)) :
    (trimSegments segments).filterMap segment? = segments.filterMap segment? := by
  obtain ⟨off, split, quiet, -⟩ := exists_trimSegments segments
  rw [congrArg (List.filterMap segment?) split, List.filterMap_append, quiet, List.append_nil]

theorem front_trimSegments (segments : List (List Char)) : trimSegments segments <+: segments := by
  obtain ⟨off, split, -, -⟩ := exists_trimSegments segments
  exact ⟨off, split.symm⟩

/-- Without its last segment that counts, a text has its steps but the last. -/
theorem filterMap_dropLast_trimSegments (segments : List (List Char)) :
    (trimSegments segments).dropLast.filterMap segment? =
      (segments.filterMap segment?).dropLast := by
  rw [← filterMap_trimSegments segments]
  obtain ⟨off, -, -, ends⟩ := exists_trimSegments segments
  rcases List.eq_nil_or_concat' (trimSegments segments) with none | ⟨front, last, split⟩
  · rw [none]
    rfl
  · rw [split] at ends ⊢
    obtain ⟨step, counts⟩ := Option.isSome_iff_exists.mp (ends last List.getLast?_concat)
    rw [List.dropLast_concat, List.filterMap_append, List.filterMap_cons_some counts,
      List.filterMap_nil, List.dropLast_concat]

/-! ### The parent of an absolute path -/

theorem components_of_segments {rest : List (List Char)} (ne : rest ≠ [])
    (clear : ∀ s ∈ rest, '/' ∉ s) :
    (Path.mk (String.ofList (Text.joinWith ['/'] ([] :: rest)))).components =
      .root :: rest.filterMap segment? := by
  obtain ⟨first, more, rfl⟩ := List.exists_cons_of_ne_nil ne
  have split : splitAtEach '/' ((first :: more).flatMap ('/' :: ·)) = [] :: first :: more := by
    have clearFirst : '/' ∉ ([] : List Char) := List.not_mem_nil
    rw [← Text.splitAtEach_flatMap clearFirst clear, List.nil_append]
  rw [Text.joinWith_cons, List.nil_append, components, chars, String.toList_ofList, componentsOf,
    split]
  rfl

/-- The segments of an absolute path after the empty one in front. -/
theorem exists_segments (absolute : p.isAbsolute = true) :
    ∃ segments, splitAtEach '/' p.chars = [] :: segments ∧ (∀ s ∈ segments, '/' ∉ s) ∧
      p.components = .root :: segments.filterMap segment? := by
  obtain ⟨first, segments, split, text, clear⟩ := Text.exists_splitAtEach '/' p.chars
  obtain ⟨noSlash, others⟩ := List.forall_mem_cons.mp clear
  obtain ⟨rest, starts⟩ := isAbsolute_iff.mp absolute
  cases first with
  | nil => exact ⟨segments, split, others, by rw [components_of_isAbsolute absolute, split]; rfl⟩
  | cons c cs =>
    rw [starts, List.cons_append, List.cons.injEq] at text
    exact absurd (text.1 ▸ List.mem_cons_self) noSlash

/-- The folder above an absolute path has all of its steps but the last. -/
theorem components_parent? (absolute : p.isAbsolute = true) (above : p.parent? = some q) :
    q.components = p.components.dropLast := by
  obtain ⟨segments, split, clear, components⟩ := exists_segments absolute
  have kept := filterMap_dropLast_trimSegments ([] :: segments)
  have inside := (front_trimSegments ((trimSegments ([] :: segments)).dropLast)).trans
    ((List.dropLast_prefix _).trans (front_trimSegments ([] :: segments)))
  rw [← filterMap_trimSegments, List.filterMap_cons_none rfl] at kept
  rw [parent?, components, split] at above
  rw [components]
  match steps : segments.filterMap segment? with
  | [] => simp [steps] at above
  | [step] =>
    simp only [steps, Option.some.injEq] at above
    subst above
    rfl
  | step :: next :: more =>
    simp only [steps, Option.some.injEq] at above
    rw [steps, List.dropLast_cons_cons] at kept
    generalize trimSegments (trimSegments ([] :: segments)).dropLast = front at kept inside above
    -- the parent still has a step behind the root, so that it is cut behind the slash in front
    obtain ⟨rest, rfl⟩ : ∃ rest, front = [] :: rest := by
      cases front with
      | nil => cases kept
      | cons s rest => exact ⟨rest, by rw [(List.cons_prefix_cons.mp inside).1]⟩
    obtain ⟨-, inside⟩ := List.cons_prefix_cons.mp inside
    have ne : rest ≠ [] := by
      rintro rfl
      cases kept
    simp only [List.isEmpty_cons, Bool.false_eq_true, if_false] at above
    rw [← above, components_of_segments ne fun s mem => clear s (inside.subset mem),
      List.dropLast_cons_cons, List.dropLast_cons_cons, ← kept, List.filterMap_cons_none rfl]

theorem isAbsolute_parent? (absolute : p.isAbsolute = true) (above : p.parent? = some q) :
    q.isAbsolute = true := by
  obtain ⟨steps, components⟩ := exists_components_of_isAbsolute absolute
  have parent := components_parent? absolute above
  rw [components] at parent
  cases steps with
  | nil =>
    rw [parent?, components] at above
    cases above
  | cons step steps => exact isAbsolute_of_components (parent.trans List.dropLast_cons_cons)

end ScriptSuite.Path
