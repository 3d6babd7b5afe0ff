import ScriptSuite.Proofs.Host.Places

/-!
What stands where something has been put.

Files are stored and folders are made where nothing stands or a file does (`Placed`). So all
folders outlast it (`Placed.folder`), and the only file that can be new is the one that has been
stored (`Placed.eq_or_file`). Since paths are followed through folders alone, a path that leads
somewhere leads there for good (`placeFrom_of_keepsFolders`).
-/

namespace ScriptSuite

namespace Node

/-- A folder stands at the place. -/
def HasFolder (root : Node) (p : Place) : Prop :=
  ∃ mode inside, root.find? p = some (.folder mode inside)

/-- Where there was a folder there still is one. -/
def KeepsFolders (root root' : Node) : Prop :=
  ∀ p, root.HasFolder p → root'.HasFolder p

/-- No file at or below the place is a device. -/
def DeviceFree (root : Node) (base : Place) : Prop :=
  ∀ p f, base <+: p → root.find? p = some (.file f) → f.isDevice = false

/-- Something in which nothing stands has been put at a place where no folder stood. -/
structure Placed (new : Node) (p : Place) (root root' : Node) : Prop where
  tree : root' = root.put new p
  there : root'.find? p = some new
  hollow : ∀ name rest, new.find? (name :: rest) = none
  noFolder : ¬ root.HasFolder p

variable {root root' root'' new : Node} {p q base : Place} {f : File} {data : Bytes}

theorem KeepsFolders.refl (root : Node) : KeepsFolders root root :=
  fun _ folder => folder

theorem KeepsFolders.trans (first : KeepsFolders root root') (second : KeepsFolders root' root'') :
    KeepsFolders root root'' :=
  fun p folder => second p (first p folder)

/-- An empty folder holds no device. -/
theorem deviceFree_of_empty {mode : Nat} (empty : root.find? base = some (.folder mode .empty)) :
    root.DeviceFree base := by
  rintro q f ⟨rest, rfl⟩ file
  rw [find?_append, empty, Option.bind_some] at file
  cases rest <;> cases file

/-! ### What a change below leaves of a place -/

@[simp]
theorem find?_nil (root : Node) : root.find? [] = some root := by
  cases root <;> rfl

/-- A folder stays one whatever is put below it. -/
theorem exists_put_folder {rest : Place} (ne : rest ≠ []) (mode : Nat) (inside : Listing)
    (new : Node) : ∃ inside', (folder mode inside).put new rest = folder mode inside' := by
  obtain ⟨name, rest, rfl⟩ := List.exists_cons_of_ne_nil ne
  rw [put]
  split
  · exact ⟨_, rfl⟩
  · split <;> exact ⟨_, rfl⟩

/-- What is put below a place changes the place as it would a tree of its own. -/
theorem find?_put_append {rest : Place} (ne : rest ≠ []) (root new : Node) (q : Place) :
    (root.put new (q ++ rest)).find? q = (root.find? q).map fun node => node.put new rest := by
  induction q generalizing root with
  | nil =>
    rw [List.nil_append, find?_nil, find?_nil, Option.map_some]
  | cons name q ih =>
    cases root with
    | file content => rfl
    | folder mode inside =>
      rw [List.cons_append, put]
      cases found : inside.child? name with
      | some child =>
        simp only [find?, Listing.child?_put, if_true, found]
        exact ih child
      | none =>
        have more : (q ++ rest).isEmpty = false := by simp [ne]
        simp only [more, Bool.false_eq_true, if_false, find?, found, Option.map_none]

/-- What is put in place of something stands there. -/
theorem find?_put_of_stands (stands : root.find? p ≠ none) (new : Node) :
    (root.put new p).find? p = some new := by
  induction p generalizing root with
  | nil => rw [put, find?_nil]
  | cons name p ih =>
    cases root with
    | file content => exact absurd rfl stands
    | folder mode inside =>
      rw [find?] at stands
      rw [put]
      cases found : inside.child? name with
      | none => simp [found] at stands
      | some child =>
        simp only [found] at stands
        simp only [find?, Listing.child?_put, if_true]
        exact ih stands

/-- What is put in a folder stands there. -/
theorem find?_put_of_parent (ne : p ≠ []) (parent : root.HasFolder p.dropLast) (new : Node) :
    (root.put new p).find? p = some new := by
  obtain ⟨mode, inside, folder⟩ := parent
  obtain ⟨front, name, rfl⟩ := (List.eq_nil_or_concat p).resolve_left ne
  rw [List.concat_eq_append] at folder ⊢
  rw [List.dropLast_concat] at folder
  rw [find?_append, find?_put_append (List.cons_ne_nil _ _), folder]
  simp only [Option.map_some, Option.bind_some, put]
  cases inside.child? name with
  | some child => simp only [find?, Listing.child?_put, if_true]
  | none => simp only [List.isEmpty_nil, if_true, find?, Listing.child?_put]

/-! ### Putting something where no folder stands -/

/-- Of two places one lies below the other, or they are apart. -/
theorem below_or_above_or_apart (p q : Place) :
    (∃ rest, q = p ++ rest) ∨ (∃ rest, rest ≠ [] ∧ p = q ++ rest) ∨ p.Apart q := by
  by_cases below : p <+: q
  · obtain ⟨rest, rfl⟩ := below
    exact .inl ⟨rest, rfl⟩
  · by_cases above : q <+: p
    · obtain ⟨rest, rfl⟩ := above
      refine .inr (.inl ⟨rest, ?_, rfl⟩)
      rintro rfl
      exact below (by simp)
    · exact .inr (.inr ⟨below, above⟩)

theorem placed_of_file (file : root.find? p = some (.file f)) (new : File) :
    Placed (.file new) p root (root.put (.file new) p) := by
  refine ⟨rfl, find?_put_of_stands (by simp [file]) _, fun _ _ => rfl, ?_⟩
  rintro ⟨mode, inside, folder⟩
  cases file.symm.trans folder

theorem placed_of_free (free : root.find? p = none) (parent : root.HasFolder p.dropLast)
    (hollow : ∀ name rest, new.find? (name :: rest) = none) :
    Placed new p root (root.put new p) := by
  have ne : p ≠ [] := by
    rintro rfl
    cases root <;> cases free
  refine ⟨rfl, find?_put_of_parent ne parent _, hollow, ?_⟩
  rintro ⟨mode, inside, folder⟩
  cases free.symm.trans folder

/-- All folders outlast what is put where none stands. -/
theorem keepsFolders_put (noFolder : ¬root.HasFolder p) (new : Node) :
    KeepsFolders root (root.put new p) := by
  rintro q ⟨mode, inside, stood⟩
  rcases below_or_above_or_apart p q with ⟨rest, rfl⟩ | ⟨rest, ne, rfl⟩ | apart
  · rw [find?_append] at stood
    obtain ⟨node, there, within⟩ := Option.bind_eq_some_iff.mp stood
    cases node with
    | folder m i => exact absurd ⟨m, i, there⟩ noFolder
    | file content => cases rest <;> cases within
  · obtain ⟨inside', changed⟩ := exists_put_folder ne mode inside new
    refine ⟨mode, inside', ?_⟩
    rw [find?_put_append ne, stood, Option.map_some, changed]
  · refine ⟨mode, inside, ?_⟩
    rw [find?_put_of_apart apart, stood]

namespace Placed

theorem folder (placed : Placed new p root root') : KeepsFolders root root' :=
  placed.tree ▸ keepsFolders_put placed.noFolder new

/-- A file that stands somewhere afterwards is what has been put there, or stood there before. -/
theorem eq_or_file (placed : Placed new p root root') (file : root'.find? q = some (.file f)) :
    q = p ∨ root.find? q = some (.file f) := by
  rcases below_or_above_or_apart p q with ⟨rest, rfl⟩ | ⟨rest, ne, rfl⟩ | apart
  · left
    cases rest with
    | nil => exact List.append_nil p
    | cons name rest =>
      rw [find?_append, placed.there, Option.bind_some, placed.hollow] at file
      cases file
  · right
    rw [placed.tree, find?_put_append ne] at file
    obtain ⟨node, stood, changed⟩ := Option.map_eq_some_iff.mp file
    cases node with
    | file content =>
      obtain ⟨name, rest, rfl⟩ := List.exists_cons_of_ne_nil ne
      cases changed
      exact stood
    | folder mode inside =>
      obtain ⟨inside', same⟩ := exists_put_folder ne mode inside new
      cases same.symm.trans changed
  · right
    rwa [placed.tree, find?_put_of_apart apart] at file

/-- There is no device if none has been put. -/
theorem deviceFree (placed : Placed new p root root')
    (plain : ∀ f, new = .file f → f.isDevice = false) (free : root.DeviceFree base) :
    root'.DeviceFree base := by
  intro q f below file
  rcases placed.eq_or_file file with rfl | stood
  · rw [placed.there] at file
    cases file
    exact plain f rfl
  · exact free q f below stood

end Placed

/-- What is stored stands in a file, unless that is a device. -/
theorem storeAt_cases (stored : root.storeAt p data = .ok root') :
    (root' = root ∧ ∃ f, root.find? p = some (.file f) ∧ f.isDevice = true) ∨
      ∃ f, Placed (.file f) p root root' ∧ f.data = data ∧ f.isDevice = false := by
  rw [storeAt] at stored
  split at stored
  · cases stored
  · next content file =>
    cases stored
    by_cases device : content.isDevice = true
    · rw [if_pos device]
      exact .inl ⟨rfl, content, file, device⟩
    · rw [if_neg device]
      refine .inr ⟨{ content with data := data }, placed_of_file file _, rfl, ?_⟩
      simpa using device
  · next free =>
    split at stored
    · cases stored
    · cases stored
    · next mode inside parent =>
      cases stored
      exact .inr ⟨_, placed_of_free free ⟨mode, inside, parent⟩ fun _ _ => rfl, rfl, rfl⟩

/-- A new folder is empty, and stands where nothing stood. -/
theorem placed_of_makeFolderAt (made : root.makeFolderAt p = .ok root') :
    Placed .newFolder p root root' := by
  rw [makeFolderAt] at made
  split at made
  · cases made
  · next free =>
    split at made
    · cases made
    · cases made
    · next mode inside parent =>
      cases made
      exact placed_of_free free ⟨mode, inside, parent⟩ fun _ _ => rfl

/-- Storing a file takes no folder away, and makes no device. -/
theorem keeps_storeAt (stored : root.storeAt p data = .ok root') :
    KeepsFolders root root' ∧ ∀ base, root.DeviceFree base → root'.DeviceFree base := by
  rcases storeAt_cases stored with ⟨rfl, -⟩ | ⟨f, placed, -, plain⟩
  · exact ⟨.refl _, fun _ free => free⟩
  · refine ⟨placed.folder, fun base => placed.deviceFree ?_⟩
    rintro g ⟨⟩
    exact plain

/-- Making folders takes no folder away, and makes no device. -/
theorem keeps_makeFoldersFrom {steps : List Component}
    (made : root.makeFoldersFrom p steps = .ok root') :
    KeepsFolders root root' ∧ ∀ base, root.DeviceFree base → root'.DeviceFree base := by
  induction steps generalizing root p with
  | nil =>
    cases made
    exact ⟨.refl _, fun _ free => free⟩
  | cons step rest ih =>
    obtain ⟨middle, onward, rfl | ⟨-, folder⟩⟩ := makeFoldersFrom_cons made
    · exact ih onward
    · have placed := placed_of_makeFolderAt folder
      obtain ⟨folders, plain⟩ := ih onward
      refine ⟨placed.folder.trans folders, fun base free => plain base ?_⟩
      refine placed.deviceFree ?_ free
      intro file same
      cases same

/-! ### Paths that lead somewhere -/

/-- Steps lead where they have led before as long as the folders stay. -/
theorem follow_of_keepsFolders (keeps : KeepsFolders root root') {steps : List Component}
    {place target : Place} (followed : root.follow place steps = .ok target) :
    root'.follow place steps = .ok target := by
  induction steps generalizing place with
  | nil => exact followed
  | cons step rest ih =>
    rw [follow.eq_def] at followed ⊢
    simp only at followed ⊢
    split at followed
    · cases followed
    · cases followed
    · next mode inside folder =>
      obtain ⟨mode', inside', folder'⟩ := keeps place ⟨mode, inside, folder⟩
      rw [folder']
      cases step <;> exact ih followed

/-- A path that may denote a file leads where it has led before, as long as the folders stay. -/
theorem placeFrom_of_keepsFolders (keeps : KeepsFolders root root') {folder place : Place}
    {path : Path} (noFolder : path.wantsFolder = false)
    (found : root.placeFrom folder path = .ok place) :
    root'.placeFrom folder path = .ok place := by
  obtain ⟨admitted, followed, -⟩ := placeFrom_eq_ok_iff.mp found
  exact placeFrom_eq_ok_iff.mpr
    ⟨admitted, follow_of_keepsFolders keeps followed, fun _ _ => noFolder⟩

/-- A path to a folder leads there as long as the folders stay. -/
theorem placeFrom_of_hasFolder (keeps : KeepsFolders root root') {folder place : Place}
    {path : Path} (stands : root.HasFolder place)
    (found : root.placeFrom folder path = .ok place) :
    root'.placeFrom folder path = .ok place := by
  obtain ⟨admitted, followed, -⟩ := placeFrom_eq_ok_iff.mp found
  refine placeFrom_eq_ok_iff.mpr ⟨admitted, follow_of_keepsFolders keeps followed, ?_⟩
  intro f file
  obtain ⟨mode, inside, there⟩ := keeps place stands
  cases file.symm.trans there

/-- Where a path to a folder starts, a folder stands. -/
theorem hasFolder_of_follow {steps : List Component} {place target : Place}
    (followed : root.follow place steps = .ok target) (stands : root.HasFolder target) :
    root.HasFolder place := by
  cases steps with
  | nil =>
    cases followed
    exact stands
  | cons step rest =>
    rw [follow.eq_def] at followed
    simp only at followed
    split at followed
    · cases followed
    · cases followed
    · next mode inside found => exact ⟨mode, inside, found⟩

theorem follow_append {front rest : List Component} {place target : Place}
    (followed : root.follow place (front ++ rest) = .ok target) :
    root.follow (front.foldl Component.leads place) rest = .ok target := by
  induction front generalizing place with
  | nil => exact followed
  | cons step front ih =>
    rw [List.cons_append, follow.eq_def] at followed
    simp only at followed
    split at followed
    · cases followed
    · cases followed
    · cases step <;> exact ih followed

end Node
end ScriptSuite
