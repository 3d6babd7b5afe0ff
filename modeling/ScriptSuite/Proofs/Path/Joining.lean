import ScriptSuite.Proofs.Host.Places
import ScriptSuite.Session.Basic

/-!
Where joined paths lead to.

The steps of a joined path are those of the path and then those of the text that is joined to it
(`components_join`). So the name of an archive file, which makes no steps up, leads to a place of
its own at or below the sandbox (`landing_join`). An absolute path leads to the same place from
everywhere (`landing_of_isAbsolute`).
-/

namespace ScriptSuite

namespace Text

theorem splitAtEach_ne_nil (sep : Char) (cs : List Char) : splitAtEach sep cs ≠ [] := by
  cases cs with
  | nil => exact List.cons_ne_nil _ _
  | cons c cs =>
    rw [splitAtEach]
    split
    · exact List.cons_ne_nil _ _
    · split <;> exact List.cons_ne_nil _ _

/-- A text is split on either side of a separator as it would be on its own. -/
theorem splitAtEach_append (sep : Char) (front back : List Char) :
    splitAtEach sep (front ++ sep :: back) = splitAtEach sep front ++ splitAtEach sep back := by
  induction front with
  | nil => simp [splitAtEach]
  | cons c front ih =>
    rw [List.cons_append, splitAtEach, splitAtEach]
    split
    · rw [ih, List.cons_append]
    · rw [ih]
      obtain ⟨part, parts, split⟩ := List.exists_cons_of_ne_nil (splitAtEach_ne_nil sep front)
      rw [split, List.cons_append]
      rfl

theorem splitAtEach_concat (sep : Char) (front : List Char) :
    splitAtEach sep (front ++ [sep]) = splitAtEach sep front ++ [[]] :=
  splitAtEach_append sep front []

end Text

namespace Path

open Session (staysBelow)

theorem isAbsolute_iff {p : Path} : p.isAbsolute = true ↔ ∃ rest, p.chars = '/' :: rest := by
  rw [isAbsolute, beq_iff_eq, List.head?_eq_some_iff]

theorem chars_ne_nil {p : Path} (absolute : p.isAbsolute = true) : p.chars ≠ [] := by
  obtain ⟨rest, chars⟩ := isAbsolute_iff.mp absolute
  exact chars ▸ List.cons_ne_nil _ _

theorem chars_join (p : Path) (other : String) :
    (p.join other).chars = joinChars p.chars other.toList := by
  rw [join, chars, String.toList_ofList]

theorem isAbsolute_join {p : Path} (absolute : p.isAbsolute = true) (other : String) :
    (p.join other).isAbsolute = true := by
  obtain ⟨rest, chars⟩ := isAbsolute_iff.mp absolute
  rw [isAbsolute_iff, chars_join, joinChars, chars]
  split
  · next leads =>
    rw [beq_iff_eq, List.head?_eq_some_iff] at leads
    exact leads
  · split
    · exact ⟨_, rfl⟩
    · exact ⟨_, rfl⟩

/-- The segments of a joined path are those of the path and those of the text, but for an empty
one after a slash at the end of the path. -/
theorem splitAtEach_joinChars {p other : List Char} (ne : p ≠ [])
    (relative : other.head? ≠ some '/') :
    ∃ front tail, front ≠ [] ∧ (tail = [] ∨ tail = [[]]) ∧
      Text.splitAtEach '/' p = front ++ tail ∧ p <+: joinChars p other ∧
      Text.splitAtEach '/' (joinChars p other) = front ++ Text.splitAtEach '/' other := by
  have notAbsolute : (other.head? == some '/') = false := beq_eq_false_iff_ne.mpr relative
  have notEmpty : p.isEmpty = false := List.isEmpty_eq_false_iff.mpr ne
  rw [joinChars, notAbsolute, notEmpty, Bool.false_or]
  by_cases slash : p.getLast? = some '/'
  · obtain ⟨front, rfl⟩ := List.getLast?_eq_some_iff.mp slash
    refine ⟨Text.splitAtEach '/' front, [[]], Text.splitAtEach_ne_nil '/' front, .inr rfl,
      Text.splitAtEach_concat '/' front, ?_, ?_⟩
    · simp
    · simp [Text.splitAtEach_append]
  · have noSlash : (p.getLast? == some '/') = false := beq_eq_false_iff_ne.mpr slash
    rw [noSlash]
    refine ⟨Text.splitAtEach '/' p, [], Text.splitAtEach_ne_nil '/' p, .inl rfl, ?_, ?_, ?_⟩
    · rw [List.append_nil]
    · exact List.prefix_append p _
    · exact Text.splitAtEach_append '/' p other

/-- A text that is joined to a path makes its steps after those of the path. -/
theorem components_join {p : Path} {other : String} (ne : p.chars ≠ [])
    (relative : other.toList.head? ≠ some '/') :
    (p.join other).components =
      p.components ++ (Text.splitAtEach '/' other.toList).filterMap segment? := by
  obtain ⟨front, tail, frontNe, empty, segments, starts, joined⟩ :=
    splitAtEach_joinChars ne relative
  obtain ⟨part, parts, rfl⟩ := List.exists_cons_of_ne_nil frontNe
  have head : (joinChars p.chars other.toList).head? = p.chars.head? := by
    obtain ⟨c, cs, chars⟩ := List.exists_cons_of_ne_nil ne
    obtain ⟨rest, whole⟩ := starts
    rw [← whole, chars]
    rfl
  have noStep : tail.filterMap segment? = [] := by
    rcases empty with rfl | rfl <;> rfl
  rw [components, components, chars_join, componentsOf, componentsOf, joined, segments, head,
    List.filterMap_append, List.filterMap_append, noStep, List.append_nil, List.append_assoc]
  rfl

theorem exists_components_of_isAbsolute {p : Path} (absolute : p.isAbsolute = true) :
    ∃ steps, p.components = .root :: steps := by
  rw [components, componentsOf]
  rw [isAbsolute] at absolute
  simp only [absolute, if_true]
  exact ⟨_, rfl⟩

/-- The steps of a relative path are those of its segments, but for a dot that it may start
with. -/
theorem exists_componentsOf_of_relative {cs : List Char} (relative : cs.head? ≠ some '/') :
    ∃ lead, (lead = [] ∨ lead = [Component.here]) ∧
      componentsOf cs = lead ++ (Text.splitAtEach '/' cs).filterMap segment? := by
  have notAbsolute : (cs.head? == some '/') = false := beq_eq_false_iff_ne.mpr relative
  rw [componentsOf]
  simp only [notAbsolute, Bool.false_eq_true, if_false]
  split
  · exact ⟨_, .inr rfl, rfl⟩
  · exact ⟨_, .inl rfl, rfl⟩

/-- An absolute path leads to the same place from everywhere. -/
theorem landing_of_isAbsolute {p : Path} (absolute : p.isAbsolute = true) (folder folder' : Place) :
    p.landing folder = p.landing folder' := by
  obtain ⟨steps, starts⟩ := exists_components_of_isAbsolute absolute
  rw [landing, landing, starts]
  rfl

/-- Steps that stay below the folder that they start from lead to the same place below every
folder. -/
theorem foldl_leads_append {steps : List Component} (stays : steps.all staysBelow = true)
    (place : Place) :
    steps.foldl Component.leads place = place ++ steps.foldl Component.leads [] := by
  induction steps generalizing place with
  | nil => exact (List.append_nil place).symm
  | cons step rest ih =>
    rw [List.all_cons, Bool.and_eq_true] at stays
    obtain ⟨stay, stays⟩ := stays
    rw [List.foldl_cons, List.foldl_cons]
    cases step with
    | root => cases stay
    | up => cases stay
    | here => exact ih stays place
    | name text =>
      simp only [Component.leads, List.nil_append]
      rw [ih stays (place ++ [text]), ih stays [text], List.append_assoc]

/-- A name that stays below its folder is relative. -/
theorem relative_of_stays {name : String}
    (stays : (Path.mk name).components.all staysBelow = true) : name.toList.head? ≠ some '/' := by
  intro absolute
  obtain ⟨steps, starts⟩ := exists_components_of_isAbsolute (p := ⟨name⟩) (beq_iff_eq.mpr absolute)
  rw [starts] at stays
  cases stays

/-- A name that makes no steps up leads to its own place below that of the path. -/
theorem landing_join {p : Path} {name : String} (ne : p.chars ≠ [])
    (stays : (Path.mk name).components.all staysBelow = true) (folder : Place) :
    (p.join name).landing folder = p.landing folder ++ (Path.mk name).landing [] := by
  have relative := relative_of_stays stays
  have own : (Path.mk name).landing [] =
      ((Text.splitAtEach '/' name.toList).filterMap segment?).foldl Component.leads [] := by
    obtain ⟨lead, dot, steps⟩ := exists_componentsOf_of_relative relative
    rw [landing, components, chars, steps, List.foldl_append]
    rcases dot with rfl | rfl <;> rfl
  rw [components, componentsOf, List.all_append, Bool.and_eq_true] at stays
  rw [own, landing, landing, components_join ne relative, List.foldl_append]
  exact foldl_leads_append stays.2 _

/-- A name that makes no steps up leads to a place at or below that of the path. -/
theorem landing_join_prefix {p : Path} {name : String} (ne : p.chars ≠ [])
    (stays : (Path.mk name).components.all staysBelow = true) (folder : Place) :
    p.landing folder <+: (p.join name).landing folder := by
  rw [landing_join ne stays]
  exact List.prefix_append _ _

end Path
end ScriptSuite
