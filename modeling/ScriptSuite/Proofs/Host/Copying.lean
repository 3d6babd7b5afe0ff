import ScriptSuite.Proofs.Host.Storing
import ScriptSuite.Proofs.Path.Naming
import ScriptSuite.Proofs.Session.Sandbox

/-!
What copying does to the files of a host.

A copy changes what stands at the place of its target, and nothing else (`copy_ok`). The target is
emptied before the source is read, so that a file that is copied onto itself is empty afterwards
(`Delivers`). Copies one after another deliver each what its source held before all of them, as
long as no target is that of a later copy, or a later source (`Copies.delivers`).
-/

namespace ScriptSuite

namespace Node

variable {root root' root'' : Node} {p q : Place} {f new : File} {data : Bytes}
  {changed changed' : Place → Prop}

/-- Folders stay, and so do all files but for those at some places. -/
structure SameBut (changed : Place → Prop) (root root' : Node) : Prop where
  folders : ∀ q, root'.HasFolder q ↔ root.HasFolder q
  files : ∀ q f, ¬ changed q → (root'.find? q = some (.file f) ↔ root.find? q = some (.file f))

theorem SameBut.refl (changed : Place → Prop) (root : Node) : SameBut changed root root :=
  ⟨fun _ => .rfl, fun _ _ _ => .rfl⟩

theorem SameBut.trans (first : SameBut changed root root') (second : SameBut changed root' root'') :
    SameBut changed root root'' where
  folders q := (second.folders q).trans (first.folders q)
  files q f kept := (second.files q f kept).trans (first.files q f kept)

theorem SameBut.mono (h : SameBut changed root root') (sub : ∀ q, changed q → changed' q) :
    SameBut changed' root root' where
  folders := h.folders
  files q f kept := h.files q f (mt (sub q) kept)

/-- A file that is put where no folder stands leaves all other places as they are. -/
theorem Placed.alike (placed : Placed (.file new) p root root') (ne : q ≠ p) :
    (root'.HasFolder q ↔ root.HasFolder q) ∧
      ∀ f, root'.find? q = some (.file f) ↔ root.find? q = some (.file f) := by
  rcases below_or_above_or_apart p q with ⟨rest, rfl⟩ | ⟨rest, more, rfl⟩ | apart
  · -- neither before nor afterwards a folder stands at `p`, so that nothing stands below it
    have below : rest ≠ [] := fun none => ne (by rw [none, List.append_nil])
    obtain ⟨name, rest, rfl⟩ := List.exists_cons_of_ne_nil below
    have after : root'.find? (p ++ name :: rest) = none := by
      rw [find?_append, placed.there]
      rfl
    have before : root.find? (p ++ name :: rest) = none := by
      rw [find?_append]
      cases stood : root.find? p with
      | none => rfl
      | some node =>
        cases node with
        | file content => rfl
        | folder mode inside => exact absurd ⟨mode, inside, stood⟩ placed.noFolder
    simp [HasFolder, after, before]
  · have after := find?_put_append more root (.file new) q
    rw [← placed.tree] at after
    cases stood : root.find? q with
    | none => simp [HasFolder, after, stood]
    | some node =>
      cases node with
      | file content =>
        obtain ⟨name, rest, rfl⟩ := List.exists_cons_of_ne_nil more
        simp [HasFolder, after, stood, put]
      | folder mode inside =>
        obtain ⟨inside', same⟩ := exists_put_folder more mode inside (.file new)
        simp [HasFolder, after, stood, same]
  · have same := find?_put_of_apart apart root (.file new)
    rw [← placed.tree] at same
    simp [HasFolder, same]

/-- To put a file somewhere changes that place alone. -/
theorem Placed.sameBut (placed : Placed (.file new) p root root') :
    SameBut (· = p) root root' where
  folders q := by
    by_cases here : q = p
    · subst here
      refine iff_of_false ?_ placed.noFolder
      rintro ⟨mode, inside, folder⟩
      cases placed.there.symm.trans folder
    · exact (placed.alike here).1
  files q f kept := (placed.alike kept).2 f

/-- To store data changes the place of the file alone. -/
theorem sameBut_storeAt (stored : root.storeAt p data = .ok root') :
    SameBut (· = p) root root' := by
  rcases storeAt_cases stored with ⟨rfl, -⟩ | ⟨f, placed, -, -⟩
  · exact .refl _ _
  · exact placed.sameBut

/-- A device keeps nothing. -/
theorem storeAt_of_device (file : root.find? p = some (.file f)) (device : f.isDevice = true) :
    root.storeAt p data = .ok root := by
  rw [storeAt, file]
  simp only [device, if_true]

/-- A file that is no device has the new data afterwards if it is the one that is stored. -/
theorem exists_file_storeAt (stored : root.storeAt p data = .ok root')
    (file : root.find? q = some (.file f)) (regular : f.isDevice = false) :
    ∃ g, root'.find? q = some (.file g) ∧ g.data = if q = p then data else f.data := by
  by_cases here : q = p
  · subst here
    rcases storeAt_cases stored with ⟨-, g, file', device⟩ | ⟨g, placed, holds, -⟩
    · cases file.symm.trans file'
      rw [regular] at device
      cases device
    · exact ⟨g, placed.there, by rw [if_pos rfl, holds]⟩
  · exact ⟨f, ((sameBut_storeAt stored).files q f here).mpr file, (if_neg here).symm⟩

/-! ### Places of files -/

/-- The last step starts in a folder. -/
theorem follow_concat {front : List Component} {step : Component} {place target : Place}
    (followed : root.follow place (front ++ [step]) = .ok target) :
    ∃ last, root.HasFolder last ∧ target = step.leads last := by
  have last := follow_append followed
  rw [follow.eq_def] at last
  simp only at last
  split at last
  · cases last
  · cases last
  · next mode inside folder =>
    refine ⟨_, ⟨mode, inside, folder⟩, ?_⟩
    cases step <;> cases last <;> rfl

theorem HasFolder.above (folder : root.HasFolder (p ++ q)) : root.HasFolder p := by
  obtain ⟨mode, inside, found⟩ := folder
  rw [find?_append] at found
  obtain ⟨node, stands, below⟩ := Option.bind_eq_some_iff.mp found
  cases node with
  | folder mode' inside' => exact ⟨mode', inside', stands⟩
  | file content => cases q <;> cases below

/-- A file is stored only where a path leads to that ends with a name. -/
theorem exists_fileName_of_storeAt {folder place : Place} {path : Path}
    (found : root.placeFrom folder path = .ok place) (noFolder : path.wantsFolder = false)
    (stored : root.storeAt place data = .ok root') : ∃ name, path.fileName? = some name := by
  obtain ⟨-, step, last, up | ⟨cs, named⟩⟩ := Path.getLast?_components noFolder
  · -- a step up leads from a folder to a folder
    obtain ⟨front, steps⟩ := List.getLast?_eq_some_iff.mp last
    obtain ⟨followed, -⟩ := placeFrom_ok found
    rw [steps, up] at followed
    obtain ⟨from_, stands, rfl⟩ := follow_concat followed
    have above : root.HasFolder from_.dropLast := by
      obtain ⟨rest, split⟩ := List.dropLast_prefix from_
      rw [← split] at stands
      exact stands.above
    obtain ⟨mode, inside, there⟩ := above
    rw [storeAt, Component.leads, there] at stored
    cases stored
  · exact ⟨cs, Path.fileName?_eq_some_iff.mpr (named ▸ last)⟩

end Node

namespace Host

variable {h h' h'' middle : Host} {p source target : Path} {f g : File}
  {changed changed' : Place → Prop}

/-- A path denotes a file if it leads to it and may denote one. -/
theorem node_eq_file_iff :
    h.node p = .ok (.file f) ↔ p.wantsFolder = false ∧ h.place p = .ok (p.landing h.folder) ∧
      h.files.find? (p.landing h.folder) = some (.file f) := by
  rw [node, Node.nodeFrom, place]
  cases found : h.files.placeFrom h.folder p with
  | error e => simp
  | ok place =>
    obtain rfl := Node.placeFrom_eq found
    cases stands : h.files.find? (p.landing h.folder) with
    | none => simp [stands]
    | some node =>
      simp only [stands, Except.ok.injEq, Option.some.injEq, true_and]
      constructor
      · rintro rfl
        exact ⟨(Node.placeFrom_ok found).2 f stands, rfl⟩
      · exact fun both => both.2

theorem read_of_node (denotes : h.node p = .ok (.file f)) : h.read p = .ok f.data := by
  rw [read, denotes]

/-- Folders stay, and so do all files but for those at some places. -/
structure SameBut (changed : Place → Prop) (before after : Host) : Prop where
  folder : after.folder = before.folder
  files : before.files.SameBut changed after.files

namespace SameBut

theorem refl (changed : Place → Prop) (h : Host) : h.SameBut changed h :=
  ⟨rfl, .refl _ _⟩

theorem trans (first : h.SameBut changed h') (second : h'.SameBut changed h'') :
    h.SameBut changed h'' :=
  ⟨second.folder.trans first.folder, first.files.trans second.files⟩

theorem mono (same : h.SameBut changed h') (sub : ∀ q, changed q → changed' q) :
    h.SameBut changed' h' :=
  ⟨same.folder, same.files.mono sub⟩

/-- Paths that may denote files lead to the same places. -/
theorem place_eq_iff (same : h.SameBut changed h') (noFolder : p.wantsFolder = false)
    {there : Place} : h'.place p = .ok there ↔ h.place p = .ok there := by
  rw [place, place, same.folder]
  constructor
  · exact Node.placeFrom_of_keepsFolders (fun q => (same.files.folders q).mp) noFolder
  · exact Node.placeFrom_of_keepsFolders (fun q => (same.files.folders q).mpr) noFolder

/-- A path denotes the same file as before if it does not lead to where files have changed. -/
theorem node_iff (same : h.SameBut changed h') (kept : ¬ changed (p.landing h.folder)) :
    h'.node p = .ok (.file f) ↔ h.node p = .ok (.file f) := by
  rw [node_eq_file_iff, node_eq_file_iff, same.folder, same.files.files _ f kept]
  constructor
  · rintro ⟨noFolder, found, file⟩
    exact ⟨noFolder, (same.place_eq_iff noFolder).mp found, file⟩
  · rintro ⟨noFolder, found, file⟩
    exact ⟨noFolder, (same.place_eq_iff noFolder).mpr found, file⟩

/-- Two paths that have led to one place denote one file. -/
theorem node_of_landing (same : h.SameBut changed h') (denotes : h.node p = .ok (.file f))
    (here : target.landing h.folder = p.landing h.folder)
    (stands : h'.node target = .ok (.file g)) : h'.node p = .ok (.file g) := by
  obtain ⟨noFolder, found, -⟩ := node_eq_file_iff.mp denotes
  obtain ⟨-, -, there⟩ := node_eq_file_iff.mp stands
  rw [node_eq_file_iff, same.folder]
  refine ⟨noFolder, (same.place_eq_iff noFolder).mpr found, ?_⟩
  rwa [same.folder, here] at there

end SameBut

/-- Writing to a file that is no device changes what it holds, and nothing else. -/
theorem write_of_node (denotes : h.node p = .ok (.file f)) (plain : f.isDevice = false)
    (data : Bytes) :
    ∃ h', h.write p data = (.ok (), h') ∧ h.SameBut (· = p.landing h.folder) h' ∧
      h'.read p = .ok data := by
  obtain ⟨noFolder, found, stands⟩ := node_eq_file_iff.mp denotes
  obtain ⟨h', written⟩ := exists_write (l := p) noFolder found stands data
  refine ⟨h', written, ?_⟩
  obtain ⟨place, files, leads, -, stored, rfl⟩ := write_ok written
  obtain rfl := Node.placeFrom_eq leads
  have same : h.SameBut (· = p.landing h.folder) { h with files := files } :=
    ⟨rfl, Node.sameBut_storeAt stored⟩
  obtain ⟨g, there, holds⟩ := Node.exists_file_storeAt stored stands plain
  have denotes' : Host.node { h with files := files } p = .ok (.file g) :=
    node_eq_file_iff.mpr ⟨noFolder, (same.place_eq_iff noFolder).mpr found, there⟩
  refine ⟨same, ?_⟩
  rw [read_of_node denotes', holds, if_pos rfl]

/-! ### One copy -/

/-- What a copy makes of its target: a device keeps nothing, and any other file has what the source
still holds when the target has been emptied. -/
inductive Delivers (source target : Path) (before after : Host) : Prop where
  | device {f g : File} :
      before.node source = .ok (.file f) → f.isDevice = false →
      before.node target = .ok (.file g) → g.isDevice = true →
      after.node target = .ok (.file g) → Delivers source target before after
  | file {f g : File} :
      before.node source = .ok (.file f) → f.isDevice = false →
      (∀ old, before.node target = .ok (.file old) → old.isDevice = false) →
      after.node target = .ok (.file g) →
      g.data = (if source.landing before.folder = target.landing before.folder then []
        else f.data) →
      Delivers source target before after

/-- All that counts is which files the paths denote. -/
theorem Delivers.congr {before before' after after' : Host}
    (delivers : Delivers source target before after) (folder : before'.folder = before.folder)
    (reads : ∀ f, before'.node source = .ok (.file f) ↔ before.node source = .ok (.file f))
    (finds : ∀ f, before'.node target = .ok (.file f) ↔ before.node target = .ok (.file f))
    (leaves : ∀ f, after'.node target = .ok (.file f) ↔ after.node target = .ok (.file f)) :
    Delivers source target before' after' := by
  cases delivers with
  | device denotes plain old keeps stays =>
    exact .device ((reads _).mpr denotes) plain ((finds _).mpr old) keeps ((leaves _).mpr stays)
  | file denotes plain regular holds data =>
    refine .file ((reads _).mpr denotes) plain ?_ ((leaves _).mpr holds) ?_
    · intro old stands
      exact regular old ((finds old).mp stands)
    · rw [folder, data]

/-- Only a file can be delivered. -/
theorem Delivers.exists_source (delivers : Delivers source target h h') :
    ∃ f, h.node source = .ok (.file f) := by
  cases delivers with
  | device denotes _ _ _ _ => exact ⟨_, denotes⟩
  | file denotes _ _ _ _ => exact ⟨_, denotes⟩

/-- Nothing is delivered to a path that can only denote a folder. -/
theorem Delivers.wantsFolder_eq_false (delivers : Delivers source target h h') :
    target.wantsFolder = false := by
  cases delivers with
  | device _ _ _ _ stays => exact (node_eq_file_iff.mp stays).1
  | file _ _ _ holds _ => exact (node_eq_file_iff.mp holds).1

/-- A copy empties its target, then stores what the source holds. -/
theorem copy_steps (copied : h.copy source target = (.ok (), h')) :
    ∃ f middle left, h.node source = .ok (.file f) ∧ f.isDevice = false ∧
      h.write target [] = (.ok (), middle) ∧
      left = (if source.landing h.folder = target.landing h.folder then [] else f.data) ∧
      ∀ old, middle.files.find? (target.landing h.folder) = some (.file old) →
        h' = if old.isDevice then middle
          else { middle with
            files := middle.files.put (.file ⟨left, f.mode, false⟩)
              (target.landing h.folder) } := by
  rw [copy] at copied
  split at copied
  · cases copied
  · cases copied
  · next node from_ denotes found =>
    split at copied
    · cases copied
    · next regular =>
      cases node with
      | folder mode inside => exact absurd rfl regular
      | file f =>
        have plain : f.isDevice = false := by simpa [Node.isRegular] using regular
        split at copied
        · cases copied
        · next middle written =>
          obtain ⟨-, -, stands⟩ := node_eq_file_iff.mp denotes
          obtain ⟨there, files, leads, noFolder, stored, rfl⟩ := write_ok written
          obtain rfl := Node.placeFrom_eq found
          obtain rfl := Node.placeFrom_eq leads
          obtain ⟨content, left, data⟩ := Node.exists_file_storeAt stored stands plain
          refine ⟨f, _, content.data, denotes, plain, written, data, ?_⟩
          intro old emptied
          have same : h.SameBut _ { h with files := files } :=
            ⟨rfl, Node.sameBut_storeAt stored⟩
          simp only [(same.place_eq_iff noFolder).mpr leads, left, emptied] at copied
          by_cases device : old.isDevice = true
          · rw [if_pos device] at copied ⊢
            cases copied
            rfl
          · rw [if_neg device] at copied ⊢
            cases copied
            rfl

/-- A copy that is made changes what stands at the place of its target, which ends with a name. -/
theorem copy_ok (copied : h.copy source target = (.ok (), h')) :
    (∃ name, target.fileName? = some name) ∧ h.SameBut (· = target.landing h.folder) h' ∧
      Delivers source target h h' := by
  obtain ⟨f, middle, left, denotes, plain, written, data, ends⟩ := copy_steps copied
  obtain ⟨there, files, found, noFolder, stored, rfl⟩ := write_ok written
  obtain rfl := Node.placeFrom_eq found
  refine ⟨Node.exists_fileName_of_storeAt found noFolder stored, ?_⟩
  by_cases device : ∃ g, h.files.find? (target.landing h.folder) = some (.file g) ∧
      g.isDevice = true
  · obtain ⟨g, stands, device⟩ := device
    rw [Node.storeAt_of_device stands device] at stored
    cases stored
    have unchanged := ends g stands
    rw [if_pos device] at unchanged
    subst unchanged
    have denotes' := node_eq_file_iff.mpr ⟨noFolder, found, stands⟩
    exact ⟨.refl _ _, .device denotes plain denotes' device denotes'⟩
  · rcases Node.storeAt_cases stored with ⟨-, g, stands, keeps⟩ | ⟨g, emptied, -, regular⟩
    · exact absurd ⟨g, stands, keeps⟩ device
    · have stores := ends g emptied.there
      rw [regular, if_neg Bool.false_ne_true] at stores
      have filled := Node.placed_of_file emptied.there ⟨left, f.mode, false⟩
      have same : h.SameBut (· = target.landing h.folder) h' := by
        rw [stores]
        exact ⟨rfl, emptied.sameBut.trans filled.sameBut⟩
      refine ⟨same, .file (g := ⟨left, f.mode, false⟩) denotes plain ?_ ?_ data⟩
      · intro old denotes'
        by_contra keeps
        obtain ⟨-, -, stands⟩ := node_eq_file_iff.mp denotes'
        exact device ⟨old, stands, Bool.not_eq_false _ ▸ keeps⟩
      · rw [node_eq_file_iff, same.folder]
        refine ⟨noFolder, (same.place_eq_iff noFolder).mpr found, ?_⟩
        rw [stores]
        exact filled.there

/-! ### Copies one after another -/

/-- Files are copied one after another, each from the first path to the second. -/
inductive Copies : Host → List (Path × Path) → Host → Prop where
  | nil {h : Host} : Copies h [] h
  | cons {h middle h' : Host} {source target : Path} {rest : List (Path × Path)} :
      h.copy source target = (.ok (), middle) → Copies middle rest h' →
      Copies h ((source, target) :: rest) h'

/-- What an earlier copy stores is neither read nor written by a later one. -/
def Independent (folder : Place) (earlier later : Path × Path) : Prop :=
  earlier.2.landing folder ≠ later.1.landing folder ∧
    earlier.2.landing folder ≠ later.2.landing folder

namespace Copies

variable {pairs : List (Path × Path)}

theorem exists_fileName (copies : Copies h pairs h') :
    ∀ pair ∈ pairs, pair.2.wantsFolder = false ∧ ∃ name, pair.2.fileName? = some name := by
  induction copies with
  | nil => exact nofun
  | cons copied _ ih =>
    obtain ⟨named, -, made⟩ := copy_ok copied
    exact List.forall_mem_cons.mpr ⟨⟨made.wantsFolder_eq_false, named⟩, ih⟩

/-- Copies change nothing but their targets. -/
theorem sameBut (copies : Copies h pairs h') :
    h.SameBut (fun q => ∃ pair ∈ pairs, q = pair.2.landing h.folder) h' := by
  induction copies with
  | nil => exact .refl _ _
  | cons copied _ ih =>
    obtain ⟨-, first, -⟩ := copy_ok copied
    rw [first.folder] at ih
    refine SameBut.trans (first.mono ?_) (ih.mono ?_)
    · intro q here
      exact ⟨_, List.mem_cons_self, here⟩
    · rintro q ⟨pair, mem, here⟩
      exact ⟨pair, List.mem_cons_of_mem _ mem, here⟩

/-- Each copy delivers what its source held before all of them, if none stores what a later one
reads or writes. -/
theorem delivers (copies : Copies h pairs h')
    (independent : pairs.Pairwise (Independent h.folder)) :
    ∀ pair ∈ pairs, Delivers pair.1 pair.2 h h' := by
  induction copies with
  | nil => exact nofun
  | cons copied later ih =>
    obtain ⟨-, first, made⟩ := copy_ok copied
    obtain ⟨apart, independent⟩ := List.pairwise_cons.mp independent
    rw [← first.folder] at apart independent
    intro pair mem
    rcases List.mem_cons.mp mem with rfl | mem
    · refine made.congr rfl (fun _ => .rfl) (fun _ => .rfl) fun f => later.sameBut.node_iff ?_
      rintro ⟨other, mem, here⟩
      exact (apart other mem).2 here
    · obtain ⟨notRead, notWritten⟩ := apart pair mem
      rw [first.folder] at notRead notWritten
      refine (ih independent pair mem).congr first.folder.symm ?_ ?_ fun _ => .rfl
      · intro f
        exact (first.node_iff notRead.symm).symm
      · intro f
        exact (first.node_iff notWritten.symm).symm

end Copies

end Host
end ScriptSuite
