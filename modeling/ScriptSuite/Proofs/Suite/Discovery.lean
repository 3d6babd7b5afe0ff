import Mathlib.Data.List.Nodup
import ScriptSuite.Proofs.Path.Below
import ScriptSuite.Proofs.Path.Name
import ScriptSuite.Suite.Discovery

/-!
Where scripts are.

A file below a folder is a script if its name says so, and it is shown if no folder on the way to it
is closed (`Suite.HoldsScript`). A folder is hidden if its name starts with a dot and is a text
(`isHidden_iff`). Of a folder whose entries have names of their own, the scripts that are listed are
those that no hidden folder closes off (`mem_scriptPlaces`), each of them once
(`nodup_scriptPlaces`) and at its own location (`scriptsIn_eq_map`). In which order the folders list
their entries makes no difference to what is listed (`scriptsIn_perm`).
-/

namespace ScriptSuite

/-! ### Listings -/

namespace Listing

/-- The entries have names, and no two entries of a folder have the same. -/
def WellFormed : Listing → Prop
  | .empty => True
  | .file name _ rest => name.IsStep ∧ rest.child? name = none ∧ rest.WellFormed
  | .folder name _ inside rest =>
    name.IsStep ∧ rest.child? name = none ∧ inside.WellFormed ∧ rest.WellFormed

end Listing

/-- A file is well-formed as it is, a folder if its listing is. -/
def Node.WellFormed : Node → Prop
  | .file _ => True
  | .folder _ inside => inside.WellFormed

namespace Listing

/-- The same entries, in whatever order each folder lists them. -/
inductive Rearranged : Listing → Listing → Prop where
  | empty : Rearranged .empty .empty
  | file (name : EntryName) (content : File) {rest rest' : Listing} :
      Rearranged rest rest' → Rearranged (.file name content rest) (.file name content rest')
  | folder (name : EntryName) (mode : Nat) {inside inside' rest rest' : Listing} :
      Rearranged inside inside' → Rearranged rest rest' →
      Rearranged (.folder name mode inside rest) (.folder name mode inside' rest')
  | swap (name other : EntryName) (node node' : Node) (rest : Listing) :
      Rearranged (consEntry name node (consEntry other node' rest))
        (consEntry other node' (consEntry name node rest))
  | trans {l l' l'' : Listing} : Rearranged l l' → Rearranged l' l'' → Rearranged l l''

/-- What stands at a place is found in the entry of its first name. -/
theorem find?_consEntry (mode : Nat) (name : EntryName) (node : Node) (rest : Listing)
    (other : EntryName) (more : Place) :
    (Node.folder mode (consEntry name node rest)).find? (other :: more) =
      if name = other then node.find? more
      else (Node.folder mode rest).find? (other :: more) := by
  rw [Node.find?, Node.find?, child?_consEntry]
  by_cases same : name = other
  · rw [if_pos same, if_pos same]
  · rw [if_neg same, if_neg same]

/-- Where there is no entry of the first name nothing stands. -/
theorem find?_of_child? {mode : Nat} {l : Listing} {name : EntryName} (none : l.child? name = none)
    (more : Place) : (Node.folder mode l).find? (name :: more) = Option.none := by
  rw [Node.find?, none]

/-- A listing is well-formed entry by entry. -/
theorem wellFormed_consEntry {name : EntryName} {node : Node} {rest : Listing} :
    (consEntry name node rest).WellFormed ↔
      name.IsStep ∧ rest.child? name = none ∧ node.WellFormed ∧ rest.WellFormed := by
  cases node <;> simp [consEntry, WellFormed, Node.WellFormed]

theorem WellFormed.child? {l : Listing} (formed : l.WellFormed) {name : EntryName} {node : Node}
    (found : l.child? name = some node) : name.IsStep ∧ node.WellFormed := by
  induction l with
  | empty => cases found
  | file n content rest ih =>
    obtain ⟨step, -, formed⟩ := formed
    rw [Listing.child?] at found
    split at found
    · next same =>
      cases found
      exact ⟨same ▸ step, trivial⟩
    · exact ih formed found
  | folder n mode inside rest _ ih =>
    obtain ⟨step, -, formedInside, formed⟩ := formed
    rw [Listing.child?] at found
    split at found
    · next same =>
      cases found
      exact ⟨same ▸ step, formedInside⟩
    · exact ih formed found

end Listing

/-- All names on the way to what is found in a well-formed tree are steps. -/
theorem Node.WellFormed.isStep {root node : Node} {place : Place} (formed : root.WellFormed)
    (found : root.find? place = some node) : ∀ name ∈ place, name.IsStep := by
  induction place generalizing root with
  | nil => exact List.forall_mem_nil _
  | cons name place ih =>
    cases root with
    | file content => cases found
    | folder mode inside =>
      rw [Node.find?] at found
      cases there : inside.child? name with
      | none =>
        rw [there] at found
        cases found
      | some child =>
        rw [there] at found
        obtain ⟨step, below⟩ := Listing.WellFormed.child? formed there
        exact List.forall_mem_cons.mpr ⟨step, ih below found⟩

namespace Suite

open Listing (WellFormed Rearranged consEntry)

variable {l inside : Listing} {place : Place} {name : EntryName} {at_ : Location} {mode : Nat}
  {closed : EntryName → Prop}

/-! ### Names of scripts -/

/-- The bytes of the name end with a dot and one of the extensions, and something stands before
that. -/
def IsScriptName (name : EntryName) : Prop :=
  ∃ stem ext, stem ≠ [] ∧ ext ∈ extensions ∧
    name.bytes = stem ++ EntryName.dotByte :: Text.encode ext

/-- A name is that of a script if and only if its extension is one of the listed ones. -/
theorem isScriptName_iff : IsScriptName name ↔ ∃ ext, name.extension? = some ext ∧
    ext ∈ extensions := by
  have dotless : ∀ ext ∈ extensions, EntryName.dotByte ∉ Text.encode ext := by decide
  constructor
  · rintro ⟨stem, ext, ne, mem, whole⟩
    exact ⟨ext, EntryName.extension?_eq_some_iff.mpr ⟨dotless ext mem, stem, ne, whole⟩, mem⟩
  · rintro ⟨ext, named, mem⟩
    obtain ⟨-, stem, ne, whole⟩ := EntryName.extension?_eq_some_iff.mp named
    exact ⟨stem, ext, ne, mem, whole⟩

instance : DecidablePred IsScriptName := fun name =>
  decidable_of_iff (∃ ext ∈ name.extension?, ext ∈ extensions) isScriptName_iff.symm

/-- Whether a file is a script is told by its name, wherever it is. -/
theorem isScript_child_iff (ne : at_.isEmpty = false) (step : name.IsStep) :
    isScript (at_.child name) = true ↔ IsScriptName name := by
  rw [isScript, Location.extension?, Location.fileName?_child ne step, Option.bind_some,
    isScriptName_iff]
  cases name.extension? <;> simp

/-- The name starts with a dot. -/
def IsDotted (name : EntryName) : Prop :=
  name.bytes.head? = some EntryName.dotByte

/-- The name starts with a dot, and it can be read as a text. -/
def IsDottedText (name : EntryName) : Prop :=
  IsDotted name ∧ name.text? ≠ none

/-- The name of a folder is asked for a dot only after it has been read as a text, so that a raw
name hides nothing. -/
theorem isHidden_iff : isHidden name = true ↔ IsDottedText name := by
  cases name with
  | text cs =>
    rw [isHidden, IsDottedText, IsDotted, EntryName.bytes, EntryName.dotByte, Text.head?_encode_eq_dot]
    simp [EntryName.text?]
  | raw raw => exact iff_of_false Bool.false_ne_true fun dotted => dotted.2 rfl

/-- A file at the place is shown as a script: it is named as one, and no folder on the way to it is
closed. -/
def IsShown (closed : EntryName → Prop) (place : Place) : Prop :=
  ∃ front last, place = front ++ [last] ∧ (∀ name ∈ front, ¬closed name) ∧ IsScriptName last

theorem not_isShown_nil : ¬IsShown closed [] := by
  rintro ⟨front, last, split, -⟩
  simp at split

theorem isShown_singleton : IsShown closed [name] ↔ IsScriptName name := by
  constructor
  · rintro ⟨front, last, split, -, script⟩
    obtain ⟨rfl, rfl⟩ : front = [] ∧ last = name := by
      cases front <;> simp_all
    exact script
  · exact fun script => ⟨[], name, rfl, List.forall_mem_nil _, script⟩

/-- What stands deeper is shown if the first folder is not closed and the rest of the way is
clear. -/
theorem isShown_cons (ne : place ≠ []) :
    IsShown closed (name :: place) ↔ ¬closed name ∧ IsShown closed place := by
  constructor
  · rintro ⟨_ | ⟨first, front⟩, last, split, clear, script⟩
    · exact absurd (List.cons.inj split).2 ne
    · obtain ⟨rfl, rfl⟩ := List.cons.inj split
      obtain ⟨here, below⟩ := List.forall_mem_cons.mp clear
      exact ⟨here, front, last, rfl, below, script⟩
  · rintro ⟨here, front, last, rfl, below, script⟩
    exact ⟨name :: front, last, rfl, List.forall_mem_cons.mpr ⟨here, below⟩, script⟩

/-- There is a file at the place below a folder that is shown as a script. -/
def HoldsScript (closed : EntryName → Prop) (folder : Node) (place : Place) : Prop :=
  IsShown closed place ∧ ∃ content, folder.find? place = some (.file content)

/-- What is shown is shown as well if no more folders on the way to it are closed. -/
theorem HoldsScript.mono {folder : Node} {closed' : EntryName → Prop}
    (holds : HoldsScript closed folder place)
    (fewer : ∀ name ∈ place.dropLast, closed' name → closed name) :
    HoldsScript closed' folder place := by
  obtain ⟨⟨front, last, rfl, clear, script⟩, file⟩ := holds
  rw [List.dropLast_concat] at fewer
  exact ⟨⟨front, last, rfl, fun name mem shut => clear name mem (fewer name mem shut), script⟩, file⟩

/-! ### Places of scripts -/

/-- The places of the scripts in a listing, in the order of the listing. -/
def scriptPlaces : Listing → List Place
  | .empty => []
  | .file name _ rest => (if IsScriptName name then [[name]] else []) ++ scriptPlaces rest
  | .folder name _ inside rest =>
    (if isHidden name then [] else (scriptPlaces inside).map (name :: ·)) ++ scriptPlaces rest

/-- The scripts that are found are those at the places. -/
theorem scriptsIn_eq_map (formed : l.WellFormed) (ne : at_.isEmpty = false) :
    scriptsIn at_ l = (scriptPlaces l).map at_.under := by
  induction l generalizing at_ with
  | empty => rfl
  | file name content rest ih =>
    obtain ⟨step, -, formed⟩ := formed
    rw [scriptsIn, scriptPlaces, List.map_append, ih formed ne]
    simp only [isScript_child_iff ne step]
    split <;> rfl
  | folder name mode inside rest ihInside ih =>
    obtain ⟨-, -, formedInside, formed⟩ := formed
    rw [scriptsIn, scriptPlaces, List.map_append, ih formed ne,
      ihInside formedInside (Location.isEmpty_child ne name)]
    split
    · rfl
    · rw [List.map_map]
      rfl

/-- What is found in an entry and in the rest of a listing is found in the whole. -/
theorem mem_scriptPlaces_consEntry (node : Node) {rest : Listing} {own : List Place}
    (fresh : rest.child? name = none)
    (ownPlaces : ∀ place, place ∈ own ↔ IsShown closed place ∧
      ∃ more, place = name :: more ∧ ∃ content, node.find? more = some (.file content))
    (others : ∀ place, place ∈ scriptPlaces rest ↔ HoldsScript closed (.folder mode rest) place) :
    place ∈ own ++ scriptPlaces rest ↔
      HoldsScript closed (.folder mode (consEntry name node rest)) place := by
  rw [List.mem_append, ownPlaces, others, HoldsScript, HoldsScript, ← and_or_left]
  refine and_congr_right fun _ => ?_
  cases place with
  | nil => simp [Node.find?]
  | cons first more =>
    rw [Listing.find?_consEntry]
    by_cases same : name = first
    · subst same
      simp [Listing.find?_of_child? fresh]
    · simp [same, Ne.symm same]

/-- The places are those of the scripts that no hidden folder closes off. -/
theorem mem_scriptPlaces (formed : l.WellFormed) (mode : Nat) (place : Place) :
    place ∈ scriptPlaces l ↔ HoldsScript IsDottedText (.folder mode l) place := by
  induction l generalizing mode place with
  | empty =>
    refine iff_of_false List.not_mem_nil ?_
    rintro ⟨-, content, found⟩
    cases place <;> cases found
  | file name file rest ih =>
    obtain ⟨-, fresh, formed⟩ := formed
    refine mem_scriptPlaces_consEntry (.file file) fresh (fun place => ?_)
      (ih formed mode)
    constructor
    · intro mem
      split at mem
      · next script =>
        cases List.mem_singleton.mp mem
        exact ⟨isShown_singleton.mpr script, [], rfl, file, rfl⟩
      · cases mem
    · rintro ⟨shown, more, rfl, content, found⟩
      cases more with
      | nil => simp [isShown_singleton.mp shown]
      | cons => cases found
  | folder name mode' inside rest ihInside ih =>
    obtain ⟨-, fresh, formedInside, formed⟩ := formed
    refine mem_scriptPlaces_consEntry (.folder mode' inside) fresh (fun place => ?_)
      (ih formed mode)
    constructor
    · intro mem
      split at mem
      · cases mem
      · next clear =>
        obtain ⟨more, below, rfl⟩ := List.mem_map.mp mem
        obtain ⟨shown, content, found⟩ := (ihInside formedInside mode' more).mp below
        have ne : more ≠ [] := by
          rintro rfl
          exact not_isShown_nil shown
        exact ⟨(isShown_cons ne).mpr ⟨mt isHidden_iff.mpr clear, shown⟩, more, rfl, content, found⟩
    · rintro ⟨shown, more, rfl, content, found⟩
      have ne : more ≠ [] := by
        rintro rfl
        cases found
      obtain ⟨clear, below⟩ := (isShown_cons ne).mp shown
      rw [if_neg (mt isHidden_iff.mp clear)]
      exact List.mem_map.mpr
        ⟨more, (ihInside formedInside mode' more).mpr ⟨below, content, found⟩, rfl⟩

/-- A place that is listed starts with an entry. -/
theorem child?_of_mem_scriptPlaces (formed : l.WellFormed) {more : Place}
    (mem : name :: more ∈ scriptPlaces l) : l.child? name ≠ none := by
  intro none
  obtain ⟨-, content, found⟩ := (mem_scriptPlaces formed 0 _).mp mem
  rw [Listing.find?_of_child? none] at found
  cases found

theorem isStep_of_find? (formed : l.WellFormed) {node : Node}
    (found : (Node.folder mode l).find? place = some node) : ∀ name ∈ place, name.IsStep := by
  have folder : (Node.folder mode l).WellFormed := formed
  exact folder.isStep found

/-- All names on the way to a script are steps, its own included. -/
theorem isStep_of_holdsScript (formed : l.WellFormed)
    (holds : HoldsScript closed (.folder mode l) place) : ∀ name ∈ place, name.IsStep := by
  obtain ⟨-, content, found⟩ := holds
  exact isStep_of_find? formed found

/-- No place is listed twice. -/
theorem nodup_scriptPlaces (formed : l.WellFormed) : (scriptPlaces l).Nodup := by
  induction l with
  | empty => exact List.nodup_nil
  | file name content rest ih =>
    obtain ⟨-, fresh, formed⟩ := formed
    refine List.nodup_append.mpr ⟨by split <;> simp, ih formed, ?_⟩
    rintro place own _ other rfl
    split at own
    · cases List.mem_singleton.mp own
      exact child?_of_mem_scriptPlaces formed other fresh
    · cases own
  | folder name mode inside rest ihInside ih =>
    obtain ⟨-, fresh, formedInside, formed⟩ := formed
    refine List.nodup_append.mpr ⟨?_, ih formed, ?_⟩
    · split
      · exact List.nodup_nil
      · exact (ihInside formedInside).map fun _ _ same => (List.cons.inj same).2
    · rintro place own _ other rfl
      split at own
      · cases own
      · obtain ⟨more, -, rfl⟩ := List.mem_map.mp own
        exact child?_of_mem_scriptPlaces formed other fresh

/-! ### Other orders -/

/-- Entries are listed one by one. -/
theorem scriptsIn_consEntry (at_ : Location) (name : EntryName) (node : Node) (rest : Listing) :
    scriptsIn at_ (consEntry name node rest) =
      scriptsIn at_ (consEntry name node .empty) ++ scriptsIn at_ rest := by
  cases node <;> simp [consEntry, scriptsIn]

/-- What is found is the same in whatever order the folders list their entries. -/
theorem scriptsIn_perm {l' : Listing} (same : l.Rearranged l') (at_ : Location) :
    (scriptsIn at_ l).Perm (scriptsIn at_ l') := by
  induction same generalizing at_ with
  | empty => exact .nil
  | file name content _ ih => exact (ih at_).append_left _
  | folder name mode _ _ ihInside ih =>
    refine List.Perm.append ?_ (ih at_)
    split
    · exact .nil
    · exact ihInside _
  | swap name other node node' rest =>
    rw [scriptsIn_consEntry at_ name node (consEntry other node' rest),
      scriptsIn_consEntry at_ other node' rest, scriptsIn_consEntry at_ other node' (consEntry ..),
      scriptsIn_consEntry at_ name node rest, ← List.append_assoc, ← List.append_assoc]
    exact List.perm_append_comm.append_right _
  | trans _ _ first second => exact (first at_).trans (second at_)

end Suite
end ScriptSuite
