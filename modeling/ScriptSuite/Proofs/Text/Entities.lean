import ScriptSuite.Text.Entities

/-!
What is written for each character in XML.

The five characters that mean something in XML are replaced one after another. What is put in for
one of them has none of those that are still to be replaced (`undisturbed_entities`), so no entity
is changed when a later one is put in: whenever some of the five have been replaced, these stand
there as their entities and all other characters as they were (`replaceAll_take`). So a text is
written character by character (`toList_escapeXml`).
-/

namespace ScriptSuite.Text

/-! ### Characters replaced one after another -/

/-- Replaces the characters of a table in its order. -/
def replaceAll (table : List (Char × List Char)) (cs : List Char) : List Char :=
  table.foldl (fun cs entity => replaceChar entity.1 entity.2 cs) cs

/-- What is put in for a character has none of those that are replaced after it. -/
def Undisturbed (table : List (Char × List Char)) : Prop :=
  table.Pairwise fun earlier later => later.1 ∉ earlier.2

theorem replaceChar_flatMap (c : Char) (by_ : List Char) (f : Char → List Char) (cs : List Char) :
    replaceChar c by_ (cs.flatMap f) = cs.flatMap fun d => replaceChar c by_ (f d) := by
  rw [replaceChar, List.flatMap_assoc]
  rfl

/-- To replace all entries of a table is done character by character. -/
theorem replaceAll_flatMap (table : List (Char × List Char)) (f : Char → List Char)
    (cs : List Char) :
    replaceAll table (cs.flatMap f) = cs.flatMap fun d => replaceAll table (f d) := by
  induction table generalizing f with
  | nil => rfl
  | cons entity rest ih =>
    simp only [replaceAll, List.foldl_cons] at ih ⊢
    rw [replaceChar_flatMap, ih]

theorem replaceChar_eq_self {c : Char} {by_ cs : List Char} (absent : c ∉ cs) :
    replaceChar c by_ cs = cs := by
  induction cs with
  | nil => rfl
  | cons d cs ih =>
    have other : c ≠ d := List.ne_of_not_mem_cons absent
    rw [replaceChar, List.flatMap_cons, if_neg other.symm]
    exact congrArg (d :: ·) (ih (List.not_mem_of_not_mem_cons absent))

theorem replaceAll_eq_self {table : List (Char × List Char)} {cs : List Char}
    (absent : ∀ entity ∈ table, entity.1 ∉ cs) : replaceAll table cs = cs := by
  induction table with
  | nil => rfl
  | cons entity rest ih =>
    obtain ⟨first, others⟩ := List.forall_mem_cons.mp absent
    rw [replaceAll, List.foldl_cons, replaceChar_eq_self first]
    exact ih others

/-- A character is replaced once, and what is put in for it stays. -/
theorem replaceAll_singleton {table : List (Char × List Char)} (undisturbed : Undisturbed table)
    (c : Char) : replaceAll table [c] = (table.lookup c).getD [c] := by
  induction table with
  | nil => rfl
  | cons entity rest ih =>
    obtain ⟨d, name⟩ := entity
    obtain ⟨first, others⟩ := List.pairwise_cons.mp undisturbed
    by_cases same : c = d
    · subst same
      have putIn : replaceChar c name [c] = name := by simp [replaceChar]
      rw [List.lookup_cons_self, replaceAll, List.foldl_cons, putIn]
      exact replaceAll_eq_self first
    · have left : replaceChar d name [c] = [c] := by simp [replaceChar, same]
      rw [List.lookup_cons, beq_false_of_ne same, replaceAll, List.foldl_cons, left]
      exact ih others

/-- If nothing that is put in is disturbed, then replacing one after another is replacing at
once. -/
theorem replaceAll_eq_flatMap {table : List (Char × List Char)} (undisturbed : Undisturbed table)
    (cs : List Char) : replaceAll table cs = cs.flatMap fun c => (table.lookup c).getD [c] := by
  have single : cs.flatMap (fun c => [c]) = cs := by simp
  rw [← single, replaceAll_flatMap, single]
  simp only [replaceAll_singleton undisturbed]

/-- A table has something to put in for a character, or the character is not in it. -/
theorem lookup_cases (table : List (Char × List Char)) (c : Char) :
    (∃ name, table.lookup c = some name ∧ (c, name) ∈ table) ∨
      table.lookup c = none ∧ c ∉ table.map Prod.fst := by
  cases found : table.lookup c with
  | some name =>
    obtain ⟨front, back, split, -⟩ := List.lookup_eq_some_iff.mp found
    exact .inl ⟨name, rfl, by simp [split]⟩
  | none =>
    refine .inr ⟨rfl, fun mem => ?_⟩
    obtain ⟨entity, there, rfl⟩ := List.mem_map.mp mem
    simpa using List.lookup_eq_none_iff.mp found entity there

/-! ### Entities -/

/-- What is written for a character. -/
def entityOf (c : Char) : List Char :=
  (entities.lookup c).getD [c]

/-- A character is written as its entity, or as it is if there is none for it. -/
theorem entityOf_cases (c : Char) :
    (c, entityOf c) ∈ entities ∨ (∀ entity ∈ entities, c ≠ entity.1) ∧ entityOf c = [c] := by
  rw [entityOf]
  rcases lookup_cases entities c with ⟨name, found, mem⟩ | ⟨none, absent⟩
  · rw [found]
    exact .inl mem
  · rw [none]
    refine .inr ⟨?_, rfl⟩
    rintro entity mem rfl
    exact absent (List.mem_map_of_mem mem)

/-- The ampersand, which starts all entities, is replaced first. -/
theorem undisturbed_entities : Undisturbed entities := by
  unfold Undisturbed
  decide

/-- In the opposite order the ampersand of an entity is replaced as well. -/
example : replaceAll entities.reverse ['<'] = "&amp;lt;".toList := by decide

/-- What has been replaced is not changed by what is replaced later. -/
theorem replaceAll_take (n : Nat) (cs : List Char) :
    replaceAll (entities.take n) cs =
      cs.flatMap fun c => if c ∈ (entities.take n).map Prod.fst then entityOf c else [c] := by
  have undisturbed : Undisturbed (entities.take n) :=
    undisturbed_entities.sublist (List.take_sublist n entities)
  have whole : entities = entities.take n ++ entities.drop n :=
    (List.take_append_drop n entities).symm
  rw [replaceAll_eq_flatMap undisturbed]
  refine congrArg (cs.flatMap ·) (funext fun c => ?_)
  rcases lookup_cases (entities.take n) c with ⟨name, found, mem⟩ | ⟨none, absent⟩
  · rw [if_pos (List.mem_map_of_mem mem), found, entityOf, whole, List.lookup_append, found]
    rfl
  · rw [if_neg absent, none]
    rfl

/-- Escaping is going through the whole table of entities. -/
theorem toList_escapeXml_eq_replaceAll (s : String) :
    (escapeXml s).toList = replaceAll entities s.toList :=
  String.toList_ofList

/-- A text is written character by character. -/
theorem toList_escapeXml (s : String) : (escapeXml s).toList = s.toList.flatMap entityOf := by
  rw [toList_escapeXml_eq_replaceAll]
  exact replaceAll_eq_flatMap undisturbed_entities s.toList

end ScriptSuite.Text
