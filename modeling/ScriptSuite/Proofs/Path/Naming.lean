import Mathlib.Data.List.TakeDrop
import Mathlib.Data.List.TakeWhile
import ScriptSuite.Proofs.Path.Cleaning

/-!
The last steps of paths.

What is joined to a path makes its last step (`getLast?_components_join`), and cleaning leaves it
as it is if it is a name (`fileName?_clean`). A path that ends with a name leads to a place that
does (`getLast?_landing`).
-/

namespace ScriptSuite.Path

open Text (splitAtEach)

variable {p : Path} {name : List Char} {other : String}

theorem fileName?_eq_some_iff :
    p.fileName? = some name ↔ p.components.getLast? = some (.name name) := by
  rw [fileName?]
  constructor
  · intro named
    split at named
    · next last =>
      cases named
      exact last
    · cases named
  · intro last
    rw [last]

/-- The segments that count make the last step, if there are any. -/
theorem getLast?_componentsOf {cs : List Char}
    (steps : (splitAtEach '/' cs).filterMap segment? ≠ []) :
    (componentsOf cs).getLast? = ((splitAtEach '/' cs).filterMap segment?).getLast? := by
  rw [componentsOf]
  exact List.getLast?_append_of_ne_nil _ steps

/-- A path that ends with a name has a segment that counts. -/
theorem steps_ne_nil_of_named (named : p.fileName? = some name) :
    (splitAtEach '/' p.chars).filterMap segment? ≠ [] := by
  intro none
  rw [fileName?_eq_some_iff, components, componentsOf] at named
  simp only [none, List.append_nil] at named
  split at named
  · cases named
  · split at named <;> cases named

/-- What is joined to a path makes its last step. -/
theorem getLast?_components_join (p : Path)
    (steps : (splitAtEach '/' other.toList).filterMap segment? ≠ []) :
    (p.join other).components.getLast? = (Path.mk other).components.getLast? := by
  by_cases absolute : other.toList.head? = some '/'
  · rw [components, chars_join, joinChars, if_pos (beq_iff_eq.mpr absolute)]
    rfl
  · by_cases ne : p.chars = []
    · have notAbsolute : (other.toList.head? == some '/') = false :=
        beq_eq_false_iff_ne.mpr absolute
      rw [components, chars_join, joinChars, notAbsolute, ne]
      rfl
    · rw [components_join ne absolute, List.getLast?_append_of_ne_nil _ steps]
      exact (getLast?_componentsOf steps).symm

/-- The last name of a joined path is that of what has been joined. -/
theorem fileName?_join (p : Path) (named : (Path.mk other).fileName? = some name) :
    (p.join other).fileName? = some name := by
  rw [fileName?, getLast?_components_join p (steps_ne_nil_of_named named)]
  exact named

/-- A text without slashes that is no dot is a step of its own behind a path. -/
theorem components_join_name {p : Path} {name : String} (ne : p.chars ≠ [])
    (named : IsName name.toList) :
    (p.join name).components = p.components ++ [.name name.toList] := by
  have noSlash : '/' ∉ name.toList := named.noSlash
  have relative : name.toList.head? ≠ some '/' := fun slash =>
    noSlash (List.mem_of_mem_head? slash)
  have step : segment? name.toList = some (.name name.toList) := named.step
  rw [components_join ne relative, Text.splitAtEach_of_not_mem noSlash,
    List.filterMap_cons_some step, List.filterMap_nil]

/-! ### Names and clean paths -/

theorem isName_of_fileName? (named : p.fileName? = some name) : IsName name := by
  rw [fileName?_eq_some_iff] at named
  exact isName_of_mem_components (List.mem_of_mem_getLast? named)

/-- A name is a path of one step. -/
theorem fileName?_ofList (isName : IsName name) :
    (Path.mk (String.ofList name)).fileName? = some name := by
  have noSlash : '/' ∉ name := isName.noSlash
  have step : (splitAtEach '/' name).filterMap segment? = [.name name] := by
    rw [Text.splitAtEach_of_not_mem noSlash]
    exact List.filterMap_cons_some isName.step
  rw [fileName?_eq_some_iff, components, chars, String.toList_ofList,
    getLast?_componentsOf (step ▸ List.cons_ne_nil _ _), step]
  rfl

/-- A path that ends with a name still does when it is clean. -/
theorem fileName?_clean (named : p.fileName? = some name) : p.clean.fileName? = some name := by
  obtain ⟨front, steps⟩ := List.getLast?_eq_some_iff.mp (fileName?_eq_some_iff.mp named)
  have cleaned : cleanComponents p.components = cleanComponents front ++ [.name name] := by
    rw [cleanComponents, cleanComponents, steps, List.foldl_append]
    exact List.reverse_cons
  have joined : p.clean = (ofComponents (cleanComponents front)).join (String.ofList name) := by
    rw [clean, cleaned, ofComponents, ofComponents, textOf, List.foldl_append, join, chars]
    simp only [String.toList_ofList]
    rfl
  rw [joined]
  exact fileName?_join _ (fileName?_ofList (isName_of_fileName? named))

/-- A path that ends with a name leads to a place that does. -/
theorem getLast?_landing (named : p.fileName? = some name) (folder : Place) :
    (p.landing folder).getLast? = some name := by
  obtain ⟨front, steps⟩ := List.getLast?_eq_some_iff.mp (fileName?_eq_some_iff.mp named)
  rw [landing, steps, List.foldl_append]
  exact List.getLast?_concat

/-! ### Paths that may denote files -/

/-- A path that may denote a file ends with a name or with a step up. -/
theorem getLast?_components (noFolder : p.wantsFolder = false) :
    (splitAtEach '/' p.chars).filterMap segment? ≠ [] ∧
      ∃ step, p.components.getLast? = some step ∧
        (step = .up ∨ ∃ cs : List Char, step = .name cs) := by
  obtain ⟨front, last, split⟩ :=
    (List.eq_nil_or_concat (splitAtEach '/' p.chars)).resolve_left (Text.splitAtEach_ne_nil _ _)
  rw [List.concat_eq_append] at split
  rw [wantsFolder, split, List.getLast?_concat] at noFolder
  simp only [Bool.or_eq_false_iff] at noFolder
  obtain ⟨step, counts⟩ : ∃ step, segment? last = some step := by
    rw [segment?, noFolder.1, noFolder.2]
    simp only [Bool.or_self, Bool.false_eq_true, if_false]
    split <;> exact ⟨_, rfl⟩
  have steps : (splitAtEach '/' p.chars).filterMap segment? =
      front.filterMap segment? ++ [step] := by
    rw [split, List.filterMap_append, List.filterMap_cons_some counts]
    rfl
  have ne : (splitAtEach '/' p.chars).filterMap segment? ≠ [] := by simp [steps]
  refine ⟨ne, step, ?_, ?_⟩
  · rw [components, getLast?_componentsOf ne, steps, List.getLast?_concat]
  · rcases segment?_eq_some counts with up | named
    · exact .inl up
    · exact .inr ⟨last, named⟩

/-- Whether a joined path can only denote a folder is told by what is joined. -/
theorem wantsFolder_join (p : Path) (other : String) :
    (p.join other).wantsFolder = (Path.mk other).wantsFolder := by
  have last : (splitAtEach '/' (joinChars p.chars other.toList)).getLast? =
      (splitAtEach '/' other.toList).getLast? := by
    by_cases absolute : other.toList.head? = some '/'
    · rw [joinChars, if_pos (beq_iff_eq.mpr absolute)]
    · by_cases ne : p.chars = []
      · have notAbsolute : (other.toList.head? == some '/') = false :=
          beq_eq_false_iff_ne.mpr absolute
        rw [joinChars, notAbsolute, ne]
        rfl
      · obtain ⟨front, tail, -, -, -, -, joined⟩ := splitAtEach_joinChars ne absolute
        rw [joined, List.getLast?_append_of_ne_nil _ (Text.splitAtEach_ne_nil _ _)]
  rw [wantsFolder, wantsFolder, chars_join, last]
  rfl

/-- A joined path that may denote a file ends with a name only if what is joined does. -/
theorem fileName?_of_join (noFolder : (p.join other).wantsFolder = false)
    (named : (p.join other).fileName? = some name) : (Path.mk other).fileName? = some name := by
  rw [wantsFolder_join] at noFolder
  obtain ⟨steps, -⟩ := getLast?_components noFolder
  rw [fileName?, getLast?_components_join p steps] at named
  exact named

end ScriptSuite.Path
