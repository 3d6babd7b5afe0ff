import ScriptSuite.Host.Files

/-!
Places in a tree of files.

What happens at a place does not matter to what stands at places apart from it, neither below
it nor above (`find?_put_of_apart`, `find?_remove_of_apart`). A file that stands somewhere is
apart from every place where something new can be put (`apart_of_file`), so that it outlasts
new folders and the writing of other files. Where a path leads to is told by its steps
alone (`placeFrom_eq`).
-/

namespace ScriptSuite

namespace Place

/-- Neither place is the other or lies below it. -/
def Apart (p q : Place) : Prop :=
  ¬ p <+: q ∧ ¬ q <+: p

theorem Apart.ne {p q : Place} (apart : Apart p q) : p ≠ q := by
  rintro rfl
  exact apart.1 List.prefix_rfl

/-- Places in the same folder are apart there if they are apart at all. -/
theorem Apart.tail {name : EntryName} {p q : Place} (apart : Apart (name :: p) (name :: q)) :
    Apart p q := by
  constructor
  · intro below
    exact apart.1 (List.cons_prefix_cons.mpr ⟨rfl, below⟩)
  · intro above
    exact apart.2 (List.cons_prefix_cons.mpr ⟨rfl, above⟩)

theorem Apart.head_ne {name other : EntryName} {q : Place} (apart : Apart [name] (other :: q)) :
    name ≠ other := by
  rintro rfl
  exact apart.1 (List.cons_prefix_cons.mpr ⟨rfl, List.nil_prefix⟩)

/-- What is apart from a place is apart from all that lies below it. -/
theorem Apart.below {p p' q : Place} (apart : Apart p q) (below : p <+: p') : Apart p' q := by
  constructor
  · intro further
    exact apart.1 (below.trans further)
  · intro above
    rcases List.prefix_or_prefix_of_prefix below above with first | second
    · exact apart.1 first
    · exact apart.2 second

end Place

namespace Node

open Place (Apart)

/-! ### What a change elsewhere leaves alone -/

/-- A place below another is found in what stands at that. -/
theorem find?_append (root : Node) (p q : Place) :
    root.find? (p ++ q) = (root.find? p).bind fun node => node.find? q := by
  induction p generalizing root with
  | nil => cases root <;> rfl
  | cons name p ih =>
    cases root with
    | file content => rfl
    | folder mode inside =>
      rw [List.cons_append, find?, find?]
      cases inside.child? name with
      | none => rfl
      | some child => exact ih child

/-- An entry may change as long as what stands at the place below it stays. -/
theorem find?_put_child {mode : Nat} {inside : Listing} {name other : EntryName} {q : Place}
    {child child' : Node} (found : inside.child? name = some child)
    (stays : name = other → child'.find? q = child.find? q) :
    (folder mode (inside.put name child')).find? (other :: q) =
      (folder mode inside).find? (other :: q) := by
  simp only [find?, Listing.child?_put]
  by_cases same : name = other
  · rw [if_pos same, ← same, found]
    exact stays same
  · rw [if_neg same]

/-- What is put somewhere leaves places apart from it as they are, whatever it is. -/
theorem find?_put_of_apart {p q : Place} (apart : Apart p q) (root new : Node) :
    (root.put new p).find? q = root.find? q := by
  induction p generalizing root q with
  | nil => exact absurd List.nil_prefix apart.1
  | cons name p ih =>
    cases q with
    | nil => exact absurd List.nil_prefix apart.2
    | cons other q =>
      cases root with
      | file content => rfl
      | folder mode inside =>
        rw [put]
        cases found : inside.child? name with
        | some child =>
          apply find?_put_child found
          intro same
          subst same
          exact ih apart.tail child
        | none =>
          cases p with
          | cons next p => rfl
          | nil =>
            simp only [List.isEmpty_nil, if_true, find?, Listing.child?_put, if_neg apart.head_ne]

/-- What is removed somewhere leaves places apart from it as they are. -/
theorem find?_remove_of_apart {p q : Place} (apart : Apart p q) (root : Node) :
    (root.remove p).find? q = root.find? q := by
  induction p generalizing root q with
  | nil => exact absurd List.nil_prefix apart.1
  | cons name p ih =>
    cases q with
    | nil => exact absurd List.nil_prefix apart.2
    | cons other q =>
      cases root with
      | file content => rfl
      | folder mode inside =>
        cases p with
        | nil => simp only [remove, find?, Listing.child?_remove, if_neg apart.head_ne]
        | cons next p =>
          rw [remove]
          · cases found : inside.child? name with
            | none => rfl
            | some child =>
              apply find?_put_child found
              intro same
              subst same
              exact ih apart.tail child
          · exact List.cons_ne_nil next p

/-! ### Files that stand somewhere -/

section

variable {root root' : Node} {p q : Place} {f : File}

/-- Nothing stands below a file. -/
theorem eq_of_prefix_file (file : root.find? p = some (.file f)) (below : p <+: q)
    (stands : root.find? q ≠ none) : q = p := by
  obtain ⟨rest, rfl⟩ := below
  rw [find?_append, file, Option.bind_some] at stands
  cases rest with
  | nil => exact List.append_nil p
  | cons name rest => exact absurd rfl stands

/-- Nothing stands below a place where nothing stands. -/
theorem not_prefix_of_free (free : root.find? p = none) (stands : root.find? q ≠ none) :
    ¬ p <+: q := by
  rintro ⟨rest, rfl⟩
  rw [find?_append, free] at stands
  exact stands rfl

/-- A file is apart from every place in a folder where nothing stands. -/
theorem apart_of_file (file : root.find? q = some (.file f)) (free : root.find? p = none)
    {mode : Nat} {inside : Listing} (parent : root.find? p.dropLast = some (.folder mode inside)) :
    Apart p q := by
  have stands : root.find? q ≠ none := by simp [file]
  constructor
  · exact not_prefix_of_free free stands
  · intro above
    rcases List.eq_nil_or_concat p with rfl | ⟨front, name, rfl⟩
    · cases root <;> cases free
    · rw [List.concat_eq_append] at above free parent
      rw [List.dropLast_concat] at parent
      rcases List.prefix_concat_iff.mp above with rfl | above
      · exact stands free
      · have same := eq_of_prefix_file file above (by simp [parent])
        rw [same, file] at parent
        cases parent

/-- Different places of files are apart. -/
theorem apart_of_files {g : File} (file : root.find? q = some (.file f))
    (other : root.find? p = some (.file g)) (ne : p ≠ q) : Apart p q := by
  constructor
  · intro below
    exact ne (eq_of_prefix_file other below (by simp [file])).symm
  · intro above
    exact ne (eq_of_prefix_file file above (by simp [other]))

/-- A file outlasts the writing of another. -/
theorem find?_storeAt {data : Bytes} (stored : root.storeAt p data = .ok root')
    (file : root.find? q = some (.file f)) (ne : p ≠ q) : root'.find? q = some (.file f) := by
  rw [storeAt] at stored
  split at stored
  · cases stored
  · next content other =>
    cases stored
    split
    · exact file
    · rw [find?_put_of_apart (apart_of_files file other ne), file]
  · next free =>
    split at stored
    · cases stored
    · cases stored
    · next parent =>
      cases stored
      rw [find?_put_of_apart (apart_of_file file free parent), file]

/-- A new folder is made apart from all files. -/
theorem apart_of_makeFolderAt (made : root.makeFolderAt p = .ok root')
    (file : root.find? q = some (.file f)) :
    Apart p q ∧ root'.find? q = some (.file f) := by
  rw [makeFolderAt] at made
  split at made
  · cases made
  · next free =>
    split at made
    · cases made
    · cases made
    · next parent =>
      cases made
      have apart := apart_of_file file free parent
      exact ⟨apart, by rw [find?_put_of_apart apart, file]⟩

end

end Node

/-! ### Where paths lead to -/

/-- Where a step leads to from a place. -/
def Component.leads (place : Place) : Component → Place
  | .root => []
  | .here => place
  | .up => place.dropLast
  | .name entry => place ++ [entry]

/-- Where a path leads to from a place. -/
def Path.landing (p : Path) (place : Place) : Place :=
  p.components.foldl Component.leads place

/-- At a step, folders are made in the tree as it is, or in one with a folder made at that step. -/
theorem Node.makeFoldersFrom_cons {root root' : Node} {p : Place} {step : Component}
    {rest : List Component} (made : root.makeFoldersFrom p (step :: rest) = .ok root') :
    ∃ middle, middle.makeFoldersFrom (step.leads p) rest = .ok root' ∧
      (middle = root ∨
        root.find? (step.leads p) = none ∧ makeFolderAt root (step.leads p) = .ok middle) := by
  rw [makeFoldersFrom.eq_def] at made
  cases step
  all_goals
    simp only at made
    split at made
    · exact ⟨root, made, .inl rfl⟩
    · cases made
    · next free =>
      split at made
      · next middle folder => exact ⟨middle, made, .inr ⟨free, folder⟩⟩
      · cases made

/-- A file outlasts the making of folders. -/
theorem Node.find?_makeFoldersFrom {root root' : Node} {p q : Place} {f : File}
    {steps : List Component} (made : root.makeFoldersFrom p steps = .ok root')
    (file : root.find? q = some (.file f)) : root'.find? q = some (.file f) := by
  induction steps generalizing root p with
  | nil =>
    cases made
    exact file
  | cons step rest ih =>
    obtain ⟨middle, onward, rfl | ⟨-, folder⟩⟩ := makeFoldersFrom_cons made
    · exact ih onward file
    · exact ih onward (apart_of_makeFolderAt folder file).2

/-- Where steps lead to, if they lead anywhere, is told by the steps and not by the tree. -/
theorem Node.follow_eq {root : Node} {steps : List Component} {place target : Place}
    (followed : root.follow place steps = .ok target) :
    target = steps.foldl Component.leads place := by
  induction steps generalizing place with
  | nil =>
    cases followed
    rfl
  | cons step rest ih =>
    rw [follow.eq_def] at followed
    simp only at followed
    split at followed
    · cases followed
    · cases followed
    · cases step <;> exact ih followed

/-- A location is followed at all only if the host can take it as an argument. -/
structure Location.IsAdmitted (l : Location) : Prop where
  noNull : l.hasNull = false
  notEmpty : l.isEmpty = false
  short : l.isTooLong = false

/-- A location is followed step by step, and leads to a file only if it may denote one. -/
theorem Node.placeFrom_eq_ok_iff {root : Node} {folder place : Place} {l : Location} :
    root.placeFrom folder l = .ok place ↔
      l.IsAdmitted ∧ root.follow folder l.components = .ok place ∧
        ∀ f, root.find? place = some (.file f) → l.wantsFolder = false := by
  by_cases admitted : l.IsAdmitted
  · obtain ⟨noNull, notEmpty, short⟩ := admitted
    rw [placeFrom, noNull, notEmpty, short, and_iff_right ⟨noNull, notEmpty, short⟩]
    simp only [Bool.false_eq_true, if_false]
    cases followed : root.follow folder l.components with
    | error r => simp
    | ok target =>
      cases stands : root.find? target with
      | none =>
        simp only [stands, Except.ok.injEq, iff_self_and]
        rintro rfl f file
        cases stands.symm.trans file
      | some node =>
        cases node with
        | folder mode inside =>
          simp only [stands, Except.ok.injEq, iff_self_and]
          rintro rfl f file
          cases stands.symm.trans file
        | file f =>
          cases wants : l.wantsFolder with
          | true =>
            refine iff_of_false (by simp [stands]) ?_
            rintro ⟨same, mayBeFile⟩
            cases same
            cases mayBeFile f stands
          | false => simp [stands]
  · refine iff_of_false ?_ fun h => admitted h.1
    intro found
    rw [placeFrom] at found
    split at found
    · cases found
    · split at found
      · cases found
      · split at found
        · cases found
        · next noNull notEmpty short =>
          exact admitted ⟨Bool.eq_false_iff.mpr noNull, Bool.eq_false_iff.mpr notEmpty,
            Bool.eq_false_iff.mpr short⟩

theorem Node.placeFrom_ok {root : Node} {folder place : Place} {p : Path}
    (found : root.placeFrom folder p = .ok place) :
    root.follow folder p.components = .ok place ∧
      ∀ f, root.find? place = some (.file f) → p.wantsFolder = false :=
  (placeFrom_eq_ok_iff.mp found).2

/-- A path that leads somewhere leads to where its steps say. -/
theorem Node.placeFrom_eq {root : Node} {folder place : Place} {p : Path}
    (found : root.placeFrom folder p = .ok place) : place = p.landing folder :=
  Node.follow_eq (Node.placeFrom_ok found).1

end ScriptSuite
