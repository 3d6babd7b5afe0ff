import ScriptSuite.Host.Image
import ScriptSuite.Proofs.Host.Storing
import ScriptSuite.Proofs.Path.Naming
import ScriptSuite.Suite.Conditions

/-!
Searching for a program.

A name stands for some candidates, and finds a program if one of them denotes, from some folder, a
file that may be run (`Finds`). A tag that asks for a program searches from the folder of the host
(`isSome_findProgram_iff`), and a program is started from the folder of its launch
(`exists_findImage_iff`). The two folders make no difference for the absolute candidates, so that
the searches agree if and only if they do on the relative ones (`finds_iff_finds`).
-/

namespace ScriptSuite

namespace Node

variable {root : Node} {folder folder' : Place} {name list : String}
  {arguments : List String} {useShell : Bool}

/-- A path denotes, seen from a folder, a file that keeps data and has an execute bit. -/
def Runnable (root : Node) (folder : Place) (p : Path) : Prop :=
  ∃ f, root.nodeFrom folder p = .ok (.file f) ∧ f.isDevice = false ∧ f.mode &&& 0o111 ≠ 0

/-- What a program name may denote: the name itself if it has a slash, otherwise the file of that
name in one of the folders of a search list. -/
def candidates (name list : String) : List Path :=
  if name.toList.contains '/' then [⟨name⟩]
  else (Path.splitSearchList list).map fun dir => dir.join name

/-- A name finds a program from a folder. -/
def Finds (root : Node) (folder : Place) (name list : String) : Prop :=
  ∃ p ∈ candidates name list, root.Runnable folder p

/-- A name finds a program from a folder, among its absolute or its relative candidates. -/
def FindsAmong (root : Node) (absolute : Bool) (folder : Place) (name list : String) : Prop :=
  ∃ p ∈ candidates name list, p.isAbsolute = absolute ∧ root.Runnable folder p

/-- A path denotes, seen from a folder, a program that can be loaded: a native one, or a script
whose interpreter is one. -/
def Loads (root : Node) (folder : Place) (arguments : List String) (useShell : Bool) (p : Path) :
    Prop :=
  ∃ loaded, root.resolveImage folder p.text arguments useShell = .ok loaded

/-! ### Files that may be run -/

theorem nodeFrom_eq_ok_iff {l : Location} {node : Node} :
    root.nodeFrom folder l = .ok node ↔
      ∃ place, root.placeFrom folder l = .ok place ∧ root.find? place = some node := by
  rw [nodeFrom]
  cases root.placeFrom folder l with
  | error e => simp
  | ok place => cases h : root.find? place <;> simp [h]

/-- A file can be run if it is a file that keeps data and somebody may execute it; folders and
devices cannot. -/
theorem imageAt_eq_ok_iff {path : String} {image : Bytes} :
    root.imageAt folder path = .ok image ↔
      ∃ f, root.nodeFrom folder (Path.mk path) = .ok (.file f) ∧ f.isDevice = false ∧
        f.mode &&& 0o111 ≠ 0 ∧ f.data = image := by
  simp only [nodeFrom_eq_ok_iff, imageAt]
  cases root.placeFrom folder (Path.mk path) with
  | error e => cases e <;> simp
  | ok place =>
    cases stands : root.find? place with
    | none => simp [stands]
    | some node =>
      cases node with
      | folder mode inside => simp [stands]
      | file f =>
        cases device : f.isDevice <;> by_cases bits : f.mode &&& 0o111 = 0 <;>
          simp [stands, device, bits]

/-- A path leads nowhere for one of two reasons: something is missing, or a file stands in the
way. -/
theorem follow_error {steps : List Component} {r : Refusal}
    (failed : root.follow folder steps = .error r) : r = .noEntry ∨ r = .notFolder := by
  induction steps generalizing folder with
  | nil => cases failed
  | cons step rest ih =>
    rw [follow.eq_def] at failed
    simp only at failed
    split at failed
    · exact .inl (Except.error.inj failed).symm
    · exact .inr (Except.error.inj failed).symm
    · cases step <;> exact ih failed

/-- The format of an image is no matter of finding it. -/
theorem placeFrom_ne_badFormat (p : Path) :
    root.placeFrom folder p ≠ .error (.refused .badFormat) := by
  intro failed
  rw [placeFrom] at failed
  split at failed
  · cases failed
  · split at failed
    · cases failed
    · split at failed
      · cases failed
      · split at failed
        · next refused =>
          cases failed
          rcases follow_error refused with h | h <;> cases h
        · split at failed
          · split at failed <;> cases failed
          · cases failed

/-- That a file has the wrong format is told by what it holds, and not by where it is. -/
theorem imageAt_ne_badFormat (path : String) : root.imageAt folder path ≠ .error .badFormat := by
  intro failed
  rw [imageAt] at failed
  split at failed
  · next refused =>
    cases failed
    exact placeFrom_ne_badFormat _ refused
  · cases failed
  · split at failed
    · cases failed
    · cases failed
    · split at failed <;> cases failed

theorem Loads.runnable {p : Path} (loads : root.Loads folder arguments useShell p) :
    root.Runnable folder p := by
  obtain ⟨loaded, resolved⟩ := loads
  rw [resolveImage] at resolved
  split at resolved
  · cases resolved
  · next image read =>
    obtain ⟨f, denotes, plain, bits, -⟩ := imageAt_eq_ok_iff.mp read
    exact ⟨f, denotes, plain, bits⟩

/-- With the help of the shell, no file has the wrong format. -/
theorem resolveImage_ne_badFormat (path : String) :
    root.resolveImage folder path arguments true ≠ .error .badFormat := by
  intro failed
  rw [resolveImage] at failed
  split at failed
  · next refused =>
    cases failed
    exact imageAt_ne_badFormat _ refused
  · split at failed
    · cases failed
    · simp only [if_true] at failed
      split at failed
      · split at failed
        · next refused =>
          cases failed
          exact imageAt_ne_badFormat _ refused
        · cases failed
      · split at failed
        · next refused =>
          cases failed
          exact imageAt_ne_badFormat _ refused
        · cases failed

/-! ### The search for an image -/

theorem join_of_isEmpty {dir : Path} (empty : dir.text.isEmpty = true) (name : String) :
    dir.join name = ⟨name⟩ := by
  have none : dir.chars = [] := by
    rw [Path.chars, String.toList_eq_nil_iff]
    exact String.isEmpty_iff.mp empty
  rw [Path.join, none, Path.joinChars]
  split <;> simp

/-- A search along some folders gives an image if and only if one of the candidates loads. -/
theorem exists_searchImage_iff (last : Refusal) (dirs : List Path) :
    (∃ loaded, root.searchImage folder name arguments last dirs = .ok loaded) ↔
      ∃ dir ∈ dirs, root.Loads folder arguments true (dir.join name) := by
  induction dirs generalizing last with
  | nil => simp [searchImage]
  | cons dir rest ih =>
    have candidate : (if dir.text.isEmpty then name else (dir.join name).text) =
        (dir.join name).text := by
      split
      · next empty => rw [join_of_isEmpty empty]
      · rfl
    simp only [searchImage, candidate, List.mem_cons, exists_eq_or_imp]
    cases resolved : root.resolveImage folder (dir.join name).text arguments true with
    | ok loaded => exact iff_of_true ⟨loaded, rfl⟩ (.inl ⟨loaded, resolved⟩)
    | error r =>
      have fails : ¬ root.Loads folder arguments true (dir.join name) := by
        rintro ⟨loaded, other⟩
        rw [resolved] at other
        cases other
      rw [or_iff_right fails]
      -- a wrong format would end the search, but with the help of the shell no file has it
      cases r with
      | badFormat => exact absurd resolved (resolveImage_ne_badFormat _)
      | _ => exact ih _

/-- A path that ends with a slash denotes no file. -/
theorem Runnable.wantsFolder {p : Path} (runs : root.Runnable folder p) :
    p.wantsFolder = false := by
  obtain ⟨f, denotes, -⟩ := runs
  obtain ⟨place, found, file⟩ := nodeFrom_eq_ok_iff.mp denotes
  exact (placeFrom_ok found).2 f file

/-- No name, no program. -/
theorem not_finds_empty : ¬ root.Finds folder "" list := by
  rintro ⟨p, listed, runs⟩
  obtain ⟨dir, -, rfl⟩ := List.mem_map.mp listed
  have noFolder := runs.wantsFolder
  rw [Path.wantsFolder_join] at noFolder
  cases noFolder

/-- A command line amounts to an image if and only if one of the candidates loads. -/
theorem exists_findImage_iff {environment : Environment}
    (listed : environment.value? "PATH" = some list) :
    (∃ loaded, root.findImage folder environment name arguments = .ok loaded) ↔
      ∃ p ∈ candidates name list,
        root.Loads folder arguments (!name.toList.contains '/') p := by
  rw [findImage]
  split
  · next empty =>
    -- the empty name is refused at once, and its candidates are spelled like folders
    obtain rfl := String.isEmpty_iff.mp empty
    refine iff_of_false (by simp) ?_
    rintro ⟨p, mem, loads⟩
    exact not_finds_empty ⟨p, mem, loads.runnable⟩
  · split
    · next slash =>
      rw [candidates, if_pos slash, slash]
      simp only [List.mem_singleton, exists_eq_left, Bool.not_true, Loads]
    · next noSlash =>
      rw [listed, Option.getD_some, exists_searchImage_iff, candidates, if_neg noSlash,
        Bool.eq_false_iff.mpr noSlash]
      simp only [List.mem_map, exists_exists_and_eq_and, Bool.not_false]

/-! ### The folder that is searched from -/

/-- An absolute path denotes the same from every folder. -/
theorem runnable_iff_of_isAbsolute {p : Path} (absolute : p.isAbsolute = true)
    (stands : root.HasFolder folder) (stands' : root.HasFolder folder') :
    root.Runnable folder p ↔ root.Runnable folder' p := by
  obtain ⟨mode, inside, found⟩ := stands
  obtain ⟨mode', inside', found'⟩ := stands'
  obtain ⟨rest, components⟩ := Path.exists_components_of_isAbsolute absolute
  have followed : root.follow folder (Location.text p).components =
      root.follow folder' (Location.text p).components := by
    rw [Location.components, components, follow.eq_def, follow.eq_def root folder']
    simp only [found, found']
  rw [Runnable, Runnable, nodeFrom, nodeFrom, placeFrom, placeFrom, followed]

/-- A program is found in an absolute folder of the list or in a relative one. -/
theorem finds_iff_or :
    root.Finds folder name list ↔
      root.FindsAmong true folder name list ∨ root.FindsAmong false folder name list := by
  constructor
  · rintro ⟨p, mem, runs⟩
    cases absolute : p.isAbsolute with
    | true => exact .inl ⟨p, mem, absolute, runs⟩
    | false => exact .inr ⟨p, mem, absolute, runs⟩
  · rintro (⟨p, mem, -, runs⟩ | ⟨p, mem, -, runs⟩) <;> exact ⟨p, mem, runs⟩

/-- Searches from two folders agree if and only if an absolute candidate may be run, or the searches
agree on the relative candidates. -/
theorem finds_iff_finds (stands : root.HasFolder folder) (stands' : root.HasFolder folder') :
    (root.Finds folder name list ↔ root.Finds folder' name list) ↔
      root.FindsAmong true folder' name list ∨
        (root.FindsAmong false folder name list ↔ root.FindsAmong false folder' name list) := by
  have absolute :
      root.FindsAmong true folder name list ↔ root.FindsAmong true folder' name list := by
    refine exists_congr fun p => and_congr_right fun _ => and_congr_right fun isAbsolute => ?_
    exact runnable_iff_of_isAbsolute isAbsolute stands stands'
  rw [finds_iff_or, finds_iff_or, absolute]
  tauto

end Node

/-! ### The search of a condition -/

namespace Conditions

/-- A condition asks from the folder of the host, whatever that of the session is. -/
theorem isExecutable_iff {h : Host} {p : Path} :
    isExecutable h p = true ↔ h.files.Runnable h.folder p := by
  rw [isExecutable, Node.Runnable, Host.node]
  cases h.files.nodeFrom h.folder p with
  | error e => simp
  | ok node => cases node <;> simp [Node.isRegular, Node.mode]

/-- A tag that asks for a program finds one if the name does from the folder of the host. -/
theorem isSome_findProgram_iff {h : Host} {name list : String} :
    (findProgram h name (some list)).isSome = true ↔ h.files.Finds h.folder name list := by
  rw [findProgram, Node.Finds, Node.candidates]
  split
  · simp [← isExecutable_iff]
  · simp [← isExecutable_iff, List.find?_isSome]

end Conditions
end ScriptSuite
