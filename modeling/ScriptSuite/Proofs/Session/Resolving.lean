import ScriptSuite.Proofs.Path.Cleaning
import ScriptSuite.Proofs.Session.Change

/-!
Paths as they are seen from the folder of a session.

A joined path leads to where its second part leads from where the first one does
(`landing_join_eq`), and of an absolute path nothing else is left when it is clean
(`clean_eq_of_landing`). So a path that is followed after a folder has been entered is the joined
path that is followed from before (`resolve_composes`).
-/

namespace ScriptSuite

namespace Path

variable {p q : Path}

theorem join_of_absolute {other : String} (absolute : other.toList.head? = some '/') (p : Path) :
    p.join other = ⟨other⟩ := by
  rw [join, joinChars, if_pos (beq_iff_eq.mpr absolute), String.ofList_toList]

/-- A joined path leads to where its second part leads from where the first one does. -/
theorem landing_join_eq (p : Path) (other : String) (folder : Place) :
    (p.join other).landing folder = (Path.mk other).landing (p.landing folder) := by
  by_cases absolute : other.toList.head? = some '/'
  · rw [join_of_absolute absolute]
    exact landing_of_isAbsolute (beq_iff_eq.mpr absolute) _ _
  · by_cases ne : p.chars = []
    · have relative : (other.toList.head? == some '/') = false := beq_eq_false_iff_ne.mpr absolute
      have stays : p.landing folder = folder := by
        rw [landing, components, ne]
        rfl
      rw [stays, join, joinChars, relative, ne]
      exact congrArg (fun text => (Path.mk text).landing folder) String.ofList_toList
    · obtain ⟨lead, dot, steps⟩ := exists_componentsOf_of_relative absolute
      have own : (Path.mk other).components =
          lead ++ (Text.splitAtEach '/' other.toList).filterMap segment? := steps
      rw [landing, landing, landing, components_join ne absolute, own, List.foldl_append,
        List.foldl_append]
      rcases dot with rfl | rfl <;> rfl

/-- A clean path tells where the path leads to, and nothing else. -/
theorem clean_eq_of_landing (absolute : p.isAbsolute = true) (absolute' : q.isAbsolute = true)
    (same : p.landing [] = q.landing []) : p.clean = q.clean := by
  rw [clean, clean, cleanComponents_eq absolute, cleanComponents_eq absolute', same]

/-- To clean the folder first makes no difference to what a name denotes from it. -/
theorem clean_join_clean (absolute : p.isAbsolute = true) (other : String) :
    (p.clean.join other).clean = (p.join other).clean := by
  apply clean_eq_of_landing (isAbsolute_join (isAbsolute_clean absolute) other)
    (isAbsolute_join absolute other)
  rw [landing_join_eq, landing_join_eq, landing_clean absolute]

/-- The text of a clean path has no dots between its slashes. -/
theorem segments_clean (absolute : p.isAbsolute = true) :
    ∀ segment ∈ Text.splitAtEach '/' p.clean.chars, segment ≠ ['.'] ∧ segment ≠ ['.', '.'] := by
  by_cases none : p.landing [] = []
  · rw [chars_clean absolute, if_pos none]
    decide
  · rw [splitAtEach_clean absolute none]
    refine List.forall_mem_cons.mpr ⟨by decide, List.forall_mem_map.mpr fun name mem => ?_⟩
    have step := (isName_of_mem_landing mem).step
    constructor <;>
      · intro dots
        rw [dots] at step
        cases step

end Path

namespace Session

/-- A path that is seen from the folder that another path denotes is their joined path, seen from
before. What is seen is an absolute path without dots, it leads where the path leads from the
folder, and it is seen as it is. -/
theorem resolve_composes {s : Session} (absolute : s.folder.isAbsolute = true) (p q : String) :
    (s.enter (s.resolve p)).resolve q = s.resolve ((Path.mk p).join q).text ∧
    (s.resolve p).isAbsolute = true ∧
    .here ∉ (s.resolve p).components ∧ .up ∉ (s.resolve p).components ∧
    (∀ segment ∈ Text.splitAtEach '/' (s.resolve p).chars,
      segment ≠ ['.'] ∧ segment ≠ ['.', '.']) ∧
    (s.resolve p).landing [] = (Path.mk p).landing (s.folder.landing []) ∧
    s.resolve (s.resolve p).text = s.resolve p := by
  have joined (name : String) : (s.folder.join name).isAbsolute = true :=
    Path.isAbsolute_join absolute name
  have resolved (name : String) : (s.resolve name).isAbsolute = true :=
    Path.isAbsolute_clean (joined name)
  have lands (name : String) :
      (s.resolve name).landing [] = (Path.mk name).landing (s.folder.landing []) := by
    rw [resolve, Path.landing_clean (joined name), Path.landing_join_eq]
  refine ⟨?_, resolved p, ?_, Path.noUp_clean (joined p), Path.segments_clean (joined p), lands p,
    ?_⟩
  · have enters : (s.enter (s.resolve p)).folder = (s.folder.join p).clean := rfl
    rw [resolve, enters, Path.clean_join_clean (joined p), resolve]
    apply Path.clean_eq_of_landing (Path.isAbsolute_join (joined p) q) (joined _)
    rw [Path.landing_join_eq, Path.landing_join_eq, Path.landing_join_eq]
    exact (Path.landing_join_eq (Path.mk p) q (s.folder.landing [])).symm
  · rw [resolve, Path.components_clean (joined p)]
    simp
  · have own : (s.folder.join (s.resolve p).text) = s.resolve p :=
      Path.join_of_absolute (beq_iff_eq.mp (resolved p)) s.folder
    rw [resolve, own]
    exact Path.clean_eq_of_landing (resolved p) (joined p) (Path.landing_clean (joined p))

/-- Steps up above the root do not matter, nor do empty and single dotted segments. -/
theorem resolve_composes_upwards :
    ∃ s : Session, s.folder = ⟨"/w//a"⟩ ∧
      (s.enter (s.resolve "../.././x")).resolve "../../y/" =
        s.resolve "../.././x/../../y/" ∧
      s.resolve "../.././x/../../y/" = ⟨"/y"⟩ := by
  refine ⟨(ofFiles .empty).enter ⟨"/w//a"⟩, rfl, ?_, by decide +kernel⟩
  exact (resolve_composes (s := (ofFiles .empty).enter ⟨"/w//a"⟩) (by decide +kernel) "../.././x"
    "../../y/").1

end Session
end ScriptSuite
