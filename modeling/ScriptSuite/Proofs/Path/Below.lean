import ScriptSuite.Host.FileTree
import ScriptSuite.Path.Location
import ScriptSuite.Proofs.Path.Naming

/-!
Locations of places.

A place below a folder is reached by going down by its names, one after another (`Location.under`).
Each of them makes one step behind those of the folder (`components_under`), a raw name as well as a
text, so that different places have different locations (`under_injective`).
-/

namespace ScriptSuite

/-- The name makes a step of its own. Of texts this has to be asked, since a path may write one that
makes none, or several. -/
def EntryName.IsStep : EntryName → Prop
  | .text cs => Path.IsName cs
  | .raw _ => True

namespace Location

variable {l : Location} {name : EntryName} {place : Place}

theorem chars_ne_nil_of_isEmpty {p : Path} (ne : (Location.text p).isEmpty = false) :
    p.chars ≠ [] := by
  intro none
  exact Bool.eq_false_iff.mp ne (String.isEmpty_iff.mpr (String.toList_eq_nil_iff.mp none))

theorem isEmpty_child (ne : l.isEmpty = false) (name : EntryName) :
    (l.child name).isEmpty = false := by
  rcases l with p | _
  · rcases name with cs | _
    · refine Bool.eq_false_iff.mpr fun empty => ?_
      have noText : (p.join (String.ofList cs)).chars = [] :=
        String.toList_eq_nil_iff.mpr (String.isEmpty_iff.mp empty)
      have some := chars_ne_nil_of_isEmpty ne
      rw [Path.chars_join, Path.joinChars] at noText
      split at noText
      · next absolute =>
        rw [noText] at absolute
        cases absolute
      · split at noText <;> simp [some] at noText
    · rfl
  · rfl

/-- A name leads on by one step. -/
theorem components_child (ne : l.isEmpty = false) (step : name.IsStep) :
    (l.child name).components = l.components ++ [.name name] := by
  rcases l with p | ⟨p, first, rest⟩
  · rcases name with cs | raw
    · have joined := Path.components_join_name (chars_ne_nil_of_isEmpty ne)
        (show Path.IsName (String.ofList cs).toList by rwa [String.toList_ofList])
      rwa [String.toList_ofList] at joined
    · rfl
  · change p.components ++ (EntryName.raw first :: (rest ++ [name])).map .name =
      p.components ++ (EntryName.raw first :: rest).map .name ++ [.name name]
    rw [← List.cons_append, List.map_append, ← List.append_assoc]
    rfl

/-- The last step of the location of an entry is the name of that entry. -/
theorem fileName?_child (ne : l.isEmpty = false) (step : name.IsStep) :
    (l.child name).fileName? = some name := by
  rw [fileName?, components_child ne step, List.getLast?_concat]

/-- The location of a place below that of a folder. -/
def under (l : Location) (place : Place) : Location :=
  place.foldl child l

/-- The steps of a place below a folder are those of the folder and one for each name. -/
theorem components_under (ne : l.isEmpty = false) (steps : ∀ name ∈ place, name.IsStep) :
    (l.under place).components = l.components ++ place.map .name := by
  induction place generalizing l with
  | nil => exact (List.append_nil _).symm
  | cons name place ih =>
    obtain ⟨first, rest⟩ := List.forall_mem_cons.mp steps
    rw [under, List.foldl_cons]
    refine (ih (isEmpty_child ne name) rest).trans ?_
    rw [components_child ne first, List.append_assoc]
    rfl

/-- Locations below a folder differ if the places do. -/
theorem under_injective (ne : l.isEmpty = false) {other : Place}
    (steps : ∀ name ∈ place, name.IsStep) (steps' : ∀ name ∈ other, name.IsStep)
    (same : (l.under place).components = (l.under other).components) : place = other := by
  rw [components_under ne steps, components_under ne steps', List.append_cancel_left_eq] at same
  exact List.map_injective_iff.mpr (fun _ _ => Component.name.inj) same

end Location
end ScriptSuite
