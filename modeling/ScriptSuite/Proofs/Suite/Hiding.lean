import ScriptSuite.Proofs.Host.Searching
import ScriptSuite.Proofs.Host.Storing
import ScriptSuite.Proofs.Path.Order
import ScriptSuite.Proofs.Session.Change
import ScriptSuite.Proofs.Suite.Discovery

/-!
What a search for scripts finds, and what hides a script from it.

A search lists the scripts of a folder once and in the order of their locations, and does so in
whatever order the folders list their entries. What it leaves out are the scripts below folders
whose names start with a dot and are texts. If a name that starts with a dot is no text, the search
goes on below it. So the folders that start with a dot are left out if and only if none with such a
name leads to a script (`findScripts_exact_iff`), and nothing that is put below a folder matters if
and only if a name on the way to it is a text with a dot in front: below any other folder there is
room for one more script (`exists_fresh`, `exists_withNode_ne`).
-/

namespace ScriptSuite

/-! ### Additions -/

namespace Listing

/-- An entry that is put in a well-formed listing leaves it well-formed, as it takes the place of
one that has its name. -/
theorem WellFormed.put {l : Listing} (formed : l.WellFormed) {name : EntryName} {node : Node}
    (step : name.IsStep) (formedNode : node.WellFormed) : (l.put name node).WellFormed := by
  induction l with
  | empty => exact wellFormed_consEntry.mpr ⟨step, rfl, formedNode, trivial⟩
  | file n content rest ih =>
    obtain ⟨stepN, fresh, formed⟩ := formed
    rw [Listing.put]
    split
    · next same =>
      subst same
      exact wellFormed_consEntry.mpr ⟨step, fresh, formedNode, formed⟩
    · next other =>
      refine ⟨stepN, ?_, ih formed⟩
      rw [child?_put, if_neg (Ne.symm other), fresh]
  | folder n mode inside rest _ ih =>
    obtain ⟨stepN, fresh, formedInside, formed⟩ := formed
    rw [Listing.put]
    split
    · next same =>
      subst same
      exact wellFormed_consEntry.mpr ⟨step, fresh, formedNode, formed⟩
    · next other =>
      refine ⟨stepN, ?_, formedInside, ih formed⟩
      rw [child?_put, if_neg (Ne.symm other), fresh]

/-- There are no entries whose names are longer than those of all entries. -/
theorem exists_bound (l : Listing) :
    ∃ bound, ∀ name : EntryName, bound ≤ name.bytes.length → l.child? name = none := by
  induction l with
  | empty => exact ⟨0, fun _ _ => rfl⟩
  | file n _ rest ih | folder n _ _ rest _ ih =>
    obtain ⟨bound, free⟩ := ih
    refine ⟨max bound (n.bytes.length + 1), fun name long => ?_⟩
    have other : n ≠ name := by
      rintro rfl
      omega
    rw [Listing.child?, if_neg other]
    exact free name (by omega)

end Listing

/-- So does what is put anywhere below a well-formed folder, if the way to it is made of steps. -/
theorem Node.WellFormed.put {root new : Node} {place : Place} (formed : root.WellFormed)
    (steps : ∀ name ∈ place, name.IsStep) (formedNew : new.WellFormed) :
    (root.put new place).WellFormed := by
  induction place generalizing root with
  | nil => rwa [Node.put]
  | cons name place ih =>
    obtain ⟨step, steps⟩ := List.forall_mem_cons.mp steps
    cases root with
    | file content => exact trivial
    | folder mode inside =>
      rw [Node.put]
      cases there : inside.child? name with
      | some child =>
        exact Listing.WellFormed.put formed step
          (ih (Listing.WellFormed.child? formed there).2 steps)
      | none =>
        dsimp only
        split
        · exact Listing.WellFormed.put formed step formedNew
        · exact formed

/-- The host with something else at a place. -/
def Host.withNode (h : Host) (place : Place) (new : Node) : Host :=
  { h with files := h.files.put new place }

namespace Suite

open Listing (WellFormed Rearranged consEntry)

variable {l inside : Listing} {at_ : Location} {mode : Nat}

/-- In every folder there is room for one more script. -/
theorem exists_fresh (l : Listing) :
    ∃ name : EntryName, name.IsStep ∧ IsScriptName name ∧ l.child? name = none := by
  obtain ⟨bound, free⟩ := l.exists_bound
  have bytes : Text.encode (List.replicate (bound + 1) 'a') = List.replicate (bound + 1) 0x61 := by
    rw [Text.encode, List.flatMap_replicate]
    rw [show String.utf8EncodeChar 'a' = [0x61] by decide]
    simp
  refine ⟨.text (List.replicate (bound + 1) 'a' ++ ".txt".toList), ?_, ?_, ?_⟩
  · constructor
    · rw [EntryName.shown, List.replicate_succ]
      simp [Path.segment?]
    · simp [EntryName.shown]
  · refine ⟨List.replicate (bound + 1) 0x61, "txt".toList, ?_, ?_, ?_⟩
    · simp
    · decide
    · rw [EntryName.bytes, Text.encode_append, bytes]
      rfl
  · apply free
    rw [EntryName.bytes, Text.encode_append, bytes, List.length_append, List.length_replicate]
    omega

/-- An entry may be replaced by one in which the same is found. -/
theorem scriptsIn_put {name : EntryName} {node node' : Node} (found : l.child? name = some node)
    (same : scriptsIn at_ (consEntry name node' .empty) =
      scriptsIn at_ (consEntry name node .empty)) :
    scriptsIn at_ (l.put name node') = scriptsIn at_ l := by
  induction l with
  | empty => cases found
  | file n content rest ih | folder n mode inside rest _ ih =>
    rw [Listing.child?] at found
    rw [Listing.put]
    split
    · next equal =>
      subst equal
      rw [if_pos rfl] at found
      cases found
      rw [scriptsIn_consEntry, same, ← scriptsIn_consEntry]
      rfl
    · next other =>
      rw [if_neg other] at found
      rw [scriptsIn, scriptsIn, ih found]

/-- What is put in a hidden folder below a folder does not change what is found there. -/
theorem scriptsIn_put_hidden {hidden : EntryName} (isHidden_ : isHidden hidden = true)
    {rest : Place} (ne : rest ≠ []) (new : Node) (front : Place) (mode : Nat) (inside : Listing) :
    ∃ inside', (Node.folder mode inside).put new (front ++ hidden :: rest) =
      .folder mode inside' ∧ ∀ at_, scriptsIn at_ inside' = scriptsIn at_ inside := by
  induction front generalizing mode inside with
  | nil =>
    rw [List.nil_append, Node.put]
    cases found : inside.child? hidden with
    | none =>
      rw [List.isEmpty_eq_false_iff.mpr ne]
      exact ⟨inside, rfl, fun _ => rfl⟩
    | some child =>
      refine ⟨_, rfl, fun at_ => scriptsIn_put found ?_⟩
      cases child with
      | file content =>
        obtain ⟨next, more, rfl⟩ := List.exists_cons_of_ne_nil ne
        rfl
      | folder mode' inside' =>
        obtain ⟨inside'', changed⟩ := Node.exists_put_folder ne mode' inside' new
        simp [changed, consEntry, scriptsIn, isHidden_]
  | cons first front ih =>
    have more : front ++ hidden :: rest ≠ [] := by simp
    rw [List.cons_append, Node.put]
    cases found : inside.child? first with
    | none =>
      rw [List.isEmpty_eq_false_iff.mpr more]
      exact ⟨inside, rfl, fun _ => rfl⟩
    | some child =>
      refine ⟨_, rfl, fun at_ => scriptsIn_put found ?_⟩
      cases child with
      | file content =>
        obtain ⟨next, later, split⟩ := List.exists_cons_of_ne_nil more
        rw [split]
        rfl
      | folder mode' inside' =>
        obtain ⟨inside'', changed, same⟩ := ih mode' inside'
        simp [changed, consEntry, scriptsIn, same]

/-! ### Finding scripts -/

variable {h : Host} {p : Path} {folder way : Place} {locations : List Location}

/-- A search of a folder sorts what is in its listing. -/
theorem findScripts_eq (denotes : h.node p = .ok (.folder mode inside)) :
    findScripts h p = .ok ((scriptsIn p inside).mergeSort Location.le) := by
  rw [findScripts, denotes]

theorem isEmpty_of_place (placed : h.place p = .ok folder) : (Location.text p).isEmpty = false :=
  (Node.placeFrom_eq_ok_iff.mp placed).1.notEmpty

/-- A search lists the scripts that no hidden folder closes off. -/
theorem mem_findScripts (placed : h.place p = .ok folder)
    (stands : h.files.find? folder = some (.folder mode inside)) (formed : inside.WellFormed)
    (found : findScripts h p = .ok locations) (l : Location) :
    l ∈ locations ↔ ∃ place, HoldsScript IsDottedText (.folder mode inside) place ∧
      l = Location.under p place := by
  rw [findScripts_eq (Node.nodeFrom_eq_ok_iff.mpr ⟨folder, placed, stands⟩)] at found
  cases found
  rw [List.mem_mergeSort, scriptsIn_eq_map formed (isEmpty_of_place placed), List.mem_map]
  simp only [mem_scriptPlaces formed mode, eq_comm]

/-- Scripts are told apart by their locations. -/
theorem under_injective {inside' : Listing} {mode' : Nat} (placed : h.place p = .ok folder)
    (formed : inside.WellFormed) (formed' : inside'.WellFormed) {place place' : Place}
    {closed closed' : EntryName → Prop} (holds : HoldsScript closed (.folder mode inside) place)
    (holds' : HoldsScript closed' (.folder mode' inside') place')
    (same : Location.under p place = Location.under p place') : place = place' :=
  Location.under_injective (isEmpty_of_place placed) (isStep_of_holdsScript formed holds)
    (isStep_of_holdsScript formed' holds') (congrArg Location.components same)

/-- No two of the scripts that are listed have the same steps. -/
theorem scriptsIn_apart (formed : inside.WellFormed) (ne : at_.isEmpty = false) :
    ∀ l ∈ scriptsIn at_ inside, ∀ m ∈ scriptsIn at_ inside,
      l.components = m.components → l = m := by
  rw [scriptsIn_eq_map formed ne]
  intro l first m second same
  obtain ⟨place, holds, rfl⟩ := List.mem_map.mp first
  obtain ⟨place', holds', rfl⟩ := List.mem_map.mp second
  rw [mem_scriptPlaces formed 0] at holds holds'
  rw [Location.under_injective ne (isStep_of_holdsScript formed holds)
    (isStep_of_holdsScript formed holds') same]

/-- The path denotes the folder still, whatever is put below. -/
theorem stands_withNode (placed : h.place p = .ok folder)
    (stands : h.files.find? folder = some (.folder mode inside)) {rest : Place} (ne : rest ≠ [])
    (noFolder : ¬h.files.HasFolder (folder ++ rest)) (new : Node) :
    (h.withNode (folder ++ rest) new).place p = .ok folder ∧
      (h.withNode (folder ++ rest) new).files.find? folder =
        some ((Node.folder mode inside).put new rest) := by
  constructor
  · exact Node.placeFrom_of_hasFolder (Node.keepsFolders_put noFolder new) ⟨mode, inside, stands⟩
      placed
  · rw [Host.withNode, Node.find?_put_append ne, stands, Option.map_some]

/-- What is put below a hidden folder is not seen. -/
theorem findScripts_withNode (placed : h.place p = .ok folder)
    (stands : h.files.find? folder = some (.folder mode inside))
    (found : findScripts h p = .ok locations) {hidden : EntryName} (mem : hidden ∈ way)
    (dotted : IsDottedText hidden) {rest : Place} (ne : rest ≠ [])
    (noFolder : ¬h.files.HasFolder (folder ++ (way ++ rest))) (new : Node) :
    findScripts (h.withNode (folder ++ (way ++ rest)) new) p = .ok locations := by
  obtain ⟨front, back, rfl⟩ := List.append_of_mem mem
  rw [List.append_assoc, List.cons_append] at noFolder ⊢
  obtain ⟨placed', stands'⟩ := stands_withNode placed stands (by simp) noFolder new
  have further : back ++ rest ≠ [] := by simp [ne]
  obtain ⟨inside', changed, same⟩ :=
    scriptsIn_put_hidden (isHidden_iff.mpr dotted) further new front mode inside
  rw [changed] at stands'
  have denotes := Node.nodeFrom_eq_ok_iff.mpr ⟨folder, placed, stands⟩
  have denotes' := Node.nodeFrom_eq_ok_iff.mpr ⟨folder, placed', stands'⟩
  rw [findScripts_eq denotes', same, ← findScripts_eq denotes, found]

/-- A script that is put in a folder is there. -/
theorem holdsScript_put {closed : EntryName → Prop} (formed : inside.WellFormed)
    (below : (Node.folder mode inside).HasFolder way) (clear : ∀ name ∈ way, ¬closed name)
    {name : EntryName} (step : name.IsStep) (script : IsScriptName name) (content : File) :
    ∃ inside', (Node.folder mode inside).put (.file content) (way ++ [name]) =
        .folder mode inside' ∧ inside'.WellFormed ∧
      HoldsScript closed (.folder mode inside') (way ++ [name]) := by
  have ne : way ++ [name] ≠ [] := by simp
  obtain ⟨inside', changed⟩ := Node.exists_put_folder ne mode inside (.file content)
  obtain ⟨mode', within, there⟩ := below
  have steps := isStep_of_find? formed there
  have wellFormed : ((Node.folder mode inside).put (.file content) (way ++ [name])).WellFormed := by
    refine Node.WellFormed.put formed (fun n mem => ?_) trivial
    rcases List.mem_append.mp mem with above | last
    · exact steps n above
    · rwa [List.mem_singleton.mp last]
  have stored : ((Node.folder mode inside).put (.file content) (way ++ [name])).find?
      (way ++ [name]) = some (.file content) := by
    apply Node.find?_put_of_parent ne
    rw [List.dropLast_concat]
    exact ⟨mode', within, there⟩
  rw [changed] at wellFormed stored
  exact ⟨inside', changed, wellFormed, ⟨way, name, rfl, clear, script⟩, content, stored⟩

/-- Below a folder that is not hidden one more script may be put, and it is seen. -/
theorem exists_withNode_ne (placed : h.place p = .ok folder)
    (stands : h.files.find? folder = some (.folder mode inside)) (formed : inside.WellFormed)
    (found : findScripts h p = .ok locations) (below : (Node.folder mode inside).HasFolder way)
    (clear : ∀ name ∈ way, ¬IsDottedText name) :
    ∃ rest new, rest ≠ [] ∧ ¬h.files.HasFolder (folder ++ (way ++ rest)) ∧
      findScripts (h.withNode (folder ++ (way ++ rest)) new) p ≠ .ok locations := by
  obtain ⟨mode', within, there⟩ := below
  obtain ⟨name, step, script, free⟩ := exists_fresh within
  have absent : (Node.folder mode inside).find? (way ++ [name]) = none := by
    rw [Node.find?_append, there, Option.bind_some, Listing.find?_of_child? free]
  have noFolder : ¬h.files.HasFolder (folder ++ (way ++ [name])) := by
    rintro ⟨m, i, stood⟩
    rw [Node.find?_append, stands, Option.bind_some, absent] at stood
    cases stood
  let content : File := ⟨[], 0o644, false⟩
  obtain ⟨inside', changed, formed', holds⟩ :=
    holdsScript_put formed ⟨mode', within, there⟩ clear step script content
  obtain ⟨placed', stands'⟩ := stands_withNode placed stands (by simp) noFolder (.file content)
  rw [changed] at stands'
  refine ⟨[name], .file content, List.cons_ne_nil _ _, noFolder, fun unchanged => ?_⟩
  -- If nothing had changed, the new script would have been there before.
  have listed := (mem_findScripts placed' stands' formed' unchanged _).mpr ⟨_, holds, rfl⟩
  obtain ⟨place, before, same⟩ := (mem_findScripts placed stands formed found _).mp listed
  obtain rfl := under_injective placed formed' formed holds before same
  obtain ⟨-, file, stood⟩ := before
  cases absent.symm.trans stood

def noScript : File := ⟨[], 0o644, false⟩

/-- The name of a script that cannot be read. -/
def rawScript : RawName := ⟨0xFF :: Text.encode ".txt".toList, by decide +kernel⟩

/-- A folder with scripts, one of them with a raw name, with a hidden folder, a folder that is named
as a script, and a file that has nothing before its dot. -/
def assortedFolder : Listing :=
  .folder ['.', 'x'] 0o755 (.file "c.txt".toList noScript .empty) <|
    .file (.raw rawScript) noScript <| .file "a.txt".toList noScript <|
      .file ".txt".toList noScript <|
        .folder "d.txt".toList 0o755 (.file ".e.txtar".toList noScript .empty) .empty

/-- A host with this folder. -/
def assortedHost : Host :=
  Session.hostOf (.folder ['s'] 0o755 assortedFolder .empty)

theorem wellFormed_assortedFolder : assortedFolder.WellFormed :=
  ⟨⟨by decide, by decide⟩, rfl, ⟨⟨by decide, by decide⟩, rfl, trivial⟩,
    trivial, rfl, ⟨by decide, by decide⟩, rfl, ⟨by decide, by decide⟩, rfl,
    ⟨by decide, by decide⟩, rfl, ⟨⟨by decide, by decide⟩, rfl, trivial⟩, trivial⟩

/-- The folder itself, and below it the hidden folder and the other one. -/
def assortedPlace : Place := [.text ['s']]

def hiddenWay : Place := [.text ['.', 'x']]

def openWay : Place := [.text "d.txt".toList]

/-- The three scripts of the folder. -/
def assortedScripts : List Location :=
  [Path.mk "/s/a.txt", Path.mk "/s/d.txt/.e.txtar", .below ⟨"/s"⟩ rawScript []]

theorem textual_assortedFolder :
    ∀ place ∈ scriptPlaces assortedFolder, ∀ name ∈ place.dropLast, name.text? ≠ none := by
  have places : scriptPlaces assortedFolder = [[.raw rawScript], [.text "a.txt".toList],
      [.text "d.txt".toList, .text ".e.txtar".toList]] := by decide +kernel
  rw [places]
  decide

theorem mergeSort_assortedFolder :
    (scriptsIn (Path.mk "/s") assortedFolder).mergeSort Location.le = assortedScripts := by
  have perm : (scriptsIn (Path.mk "/s") assortedFolder).Perm assortedScripts := by decide +kernel
  have inOrder : assortedScripts.Pairwise fun l m => l.le m = true := by decide +kernel
  rw [Location.mergeSort_eq_of_perm perm (scriptsIn_apart wellFormed_assortedFolder rfl),
    List.mergeSort_of_pairwise inOrder]

/-- The name of a folder that starts with a dot and cannot be read. -/
def rawDotted : RawName := ⟨[0x2E, 0xFF], by decide +kernel⟩

/-- A folder with such a folder, which holds a script. -/
def dottedFolder : Listing :=
  .folder (.raw rawDotted) 0o755 (.file "a.txt".toList noScript .empty) .empty

def dottedHost : Host :=
  Session.hostOf (.folder ['s'] 0o755 dottedFolder .empty)

/-- The location of a file in that folder. -/
def belowDotted (name : String) : Location :=
  .below ⟨"/s"⟩ rawDotted [.text name.toList]

theorem wellFormed_dottedFolder : dottedFolder.WellFormed :=
  ⟨trivial, rfl, ⟨⟨by decide, by decide⟩, rfl, trivial⟩, trivial⟩

end Suite
end ScriptSuite
