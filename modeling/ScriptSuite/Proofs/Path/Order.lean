import ScriptSuite.Path.Location
import ScriptSuite.Proofs.Path.Name

/-!
The order of locations.

Steps with the same key are the same (`key_injective`), since names are told apart by their bytes.
The order of locations is the lexicographic one of the keys, so that of any two locations one comes
first, and locations that have been sorted are in order (`pairwise_mergeSort`), in whatever order
they have been before (`mergeSort_eq_of_perm`).
-/

namespace ScriptSuite

namespace Location

/-- Steps with the same key are the same, since the first byte tells of which kind they are. -/
theorem key_injective : Function.Injective key := by
  intro a b same
  cases a <;> cases b <;> simp only [key, List.cons.injEq, reduceCtorEq] at same ⊢
  all_goals simp at same
  exact congrArg Component.name (EntryName.bytes_injective same)

theorem le_iff (l m : Location) :
    l.le m = true ↔ l.components.map key ≤ m.components.map key :=
  decide_eq_true_iff

/-- Locations that have been sorted are in order. -/
theorem pairwise_mergeSort (locations : List Location) :
    (locations.mergeSort le).Pairwise fun l m => l.le m = true := by
  apply List.pairwise_mergeSort
  · intro l m n first second
    rw [le_iff] at first second ⊢
    exact Std.le_trans first second
  · intro l m
    rw [Bool.or_eq_true, le_iff, le_iff]
    exact Std.le_total

/-- The order of some locations after sorting does not depend on that before it, if no two of them
have the same steps. -/
theorem mergeSort_eq_of_perm {locations locations' : List Location}
    (perm : locations.Perm locations')
    (differ : ∀ l ∈ locations, ∀ m ∈ locations, l.components = m.components → l = m) :
    locations.mergeSort le = locations'.mergeSort le := by
  have sorted : (locations.mergeSort le).Perm (locations'.mergeSort le) :=
    (List.mergeSort_perm locations le).trans
      (perm.trans (List.mergeSort_perm locations' le).symm)
  refine sorted.eq_of_pairwise (fun l m first second before after => ?_)
    (pairwise_mergeSort locations) (pairwise_mergeSort locations')
  rw [le_iff] at before after
  have steps := List.map_injective_iff.mpr key_injective (Std.le_antisymm before after)
  exact differ l (List.mem_mergeSort.mp first) m
    (perm.mem_iff.mpr (List.mem_mergeSort.mp second)) steps

end Location
end ScriptSuite
