import ScriptSuite.Proofs.Path.Naming
import ScriptSuite.Proofs.Session.Filling
import ScriptSuite.Proofs.Suite.Finish

/-!
What the sandbox of a run is.

A sandbox is an empty folder with a name of its own in the folder for sandboxes, which is written
as the parameters or the environment write it, behind the folder of the host if it is relative
(`sandboxed_of_prepare`). So its path has a step up if and only if that folder has one
(`up_mem_workDir_iff`).
-/

namespace ScriptSuite

namespace Host

theorem mem_madeUpName {n : Nat} {c : Char} (mem : c ∈ madeUpName n) : c ∈ nameLetters := by
  obtain ⟨i, -, rfl⟩ := List.mem_map.mp mem
  rw [List.getD_eq_getElem?_getD]
  cases letter : nameLetters[n / Nat.pow 26 (5 - i) % 26]? with
  | none => decide
  | some c => exact List.mem_of_getElem? letter

theorem isName_of_madeUp (n : Nat) :
    Path.IsName (sandboxLead ++ String.ofList (madeUpName n)).toList := by
  have text : (sandboxLead ++ String.ofList (madeUpName n)).toList =
      's' :: ("criptest-".toList ++ madeUpName n) := by
    rw [String.toList_append, String.toList_ofList]
    rfl
  rw [text]
  constructor
  · rw [EntryName.shown, Path.segment?]
    simp
  · have noSlash : '/' ∉ nameLetters := by decide +kernel
    rintro (- | ⟨-, mem⟩)
    rcases List.mem_append.mp mem with lead | made
    · exact absurd lead (by decide)
    · exact noSlash (mem_madeUpName made)

/-- A sandbox of this path has been made in a folder of the host. -/
structure Sandboxed (h : Host) (parent root : Path) (h' : Host) : Prop where
  absolute : root.isAbsolute = true
  /-- But for its name it is written as its parent is. -/
  components : ∃ name, root.components = (h.absolute parent).components ++ [.name name]
  folder : h'.folder = h.folder
  empty : h'.files.find? (root.landing h.folder) = some (.folder 0o700 .empty)

theorem sandboxed_of_makeSandbox {h h' : Host} {parent root : Path}
    (made : h.makeSandbox parent = (.ok root, h')) : h.Sandboxed parent root h' := by
  have ne := Path.chars_ne_nil (h.isAbsolute_absolute parent)
  have named := isName_of_madeUp h.names
  unfold makeSandbox at made
  generalize sandboxLead ++ String.ofList (madeUpName h.names) = name at named made
  have absolute := Path.isAbsolute_join (h.isAbsolute_absolute parent) name
  have components := Path.components_join_name ne named
  simp only at made
  split at made
  · cases made
  · next place found =>
    split at made
    · cases made
    · next files placed =>
      cases made
      have there := (Node.placed_of_makeFolderAt placed).there
      refine ⟨absolute, ⟨_, components⟩, rfl, ?_⟩
      rw [← Node.placeFrom_eq found]
      exact Node.find?_put_of_stands (by simp [there]) _

end Host

namespace Engine

variable {e : Engine} {name : String} {path : Location} {root : Path}
  {start : Instant} {h h' : Host}
  {s : Session}

/-- The folder that sandboxes are made in, as it is written. -/
def sandboxParent (e : Engine) (h : Host) : Path :=
  e.params.workRoot.getD ⟨(h.environment.value? Session.scratchVariable).getD "/tmp"⟩

/-- A sandbox that has been made is a new and empty folder in the folder for sandboxes. -/
theorem sandboxed_of_make (made : e.makeSandbox h = (.ok root, h')) :
    h.Sandboxed (e.sandboxParent h) root h' := by
  rw [makeSandbox] at made
  rw [sandboxParent]
  cases given : e.params.workRoot with
  | none =>
    rw [given] at made
    exact Host.sandboxed_of_makeSandbox made
  | some parent =>
    rw [given] at made
    simp only at made
    split at made
    · cases made
    · next middle folders =>
      obtain ⟨files, -, rfl⟩ := Host.makeFolders_ok folders
      obtain ⟨absolute, components, folder, empty⟩ := Host.sandboxed_of_makeSandbox made
      exact ⟨absolute, components, folder, empty⟩

/-- A session that has been prepared has been set up in an empty sandbox. -/
theorem sandboxed_of_prepare (prepared : e.prepare name path start h = .ok s) :
    ∃ host, h.Sandboxed (e.sandboxParent h) s.workDir host ∧ ∃ script options,
      Session.open? script s.workDir options host = .ok s := by
  obtain ⟨script, deadline, host, -, made, -, opened⟩ := opened_of_prepare prepared
  exact ⟨host, sandboxed_of_make made, script, _, opened⟩

theorem isAbsolute_workDir (prepared : e.prepare name path start h = .ok s) :
    s.workDir.isAbsolute = true := by
  obtain ⟨host, sandboxed, -⟩ := sandboxed_of_prepare prepared
  exact sandboxed.absolute

/-- The sandbox is not the root folder. -/
theorem landing_workDir_ne_nil (prepared : e.prepare name path start h = .ok s) :
    s.workDir.landing [] ≠ [] := by
  obtain ⟨host, sandboxed, -⟩ := sandboxed_of_prepare prepared
  obtain ⟨own, components⟩ := sandboxed.components
  rw [Path.landing, components, List.foldl_append]
  exact List.append_ne_nil_of_right_ne_nil _ (List.cons_ne_nil _ _)

theorem folder_of_prepare (prepared : e.prepare name path start h = .ok s) :
    s.folder = s.workDir := by
  obtain ⟨script, deadline, workDir, scratch, host, -, -, rfl⟩ := prepare_eq_ok prepared
  rfl

/-- The path of a sandbox has a step up if and only if that of the folder for sandboxes has one: it
is not cleaned. -/
theorem up_mem_workDir_iff (prepared : e.prepare name path start h = .ok s) :
    .up ∈ s.workDir.components ↔ .up ∈ (h.absolute (e.sandboxParent h)).components := by
  obtain ⟨host, sandboxed, -⟩ := sandboxed_of_prepare prepared
  obtain ⟨own, components⟩ := sandboxed.components
  simp [components]

end Engine
end ScriptSuite
