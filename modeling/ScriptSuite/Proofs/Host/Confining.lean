import ScriptSuite.Proofs.Host.Storing

/-!
Changes below a folder.

What is put or removed at or below a place leaves every other place as it is: the same file stands
there, or a folder with the same permission bits (`sameOutside_put`, `sameOutside_remove`). So a
file that is stored there, and folders that are made on the way to it, change nothing outside
(`sameOutside_storeAt`, `sameOutside_makeFoldersFrom`).
-/

namespace ScriptSuite

namespace Node

/-- A file, or a folder without what is in it. -/
def stem : Node → Node
  | .file content => .file content
  | .folder mode _ => .folder mode .empty

/-- What stands neither at the place nor below it is the same in both trees. -/
def SameOutside (base : Place) (root root' : Node) : Prop :=
  ∀ q, ¬ base <+: q → (root'.find? q).map stem = (root.find? q).map stem

variable {root root' root'' : Node} {base p q rest : Place} {data : Bytes}

theorem SameOutside.refl (base : Place) (root : Node) : SameOutside base root root :=
  fun _ _ => rfl

theorem SameOutside.trans (first : SameOutside base root root')
    (second : SameOutside base root' root'') : SameOutside base root root'' :=
  fun q outside => (second q outside).trans (first q outside)

/-! ### Putting and removing -/

theorem stem_put (ne : rest ≠ []) (node new : Node) : (node.put new rest).stem = node.stem := by
  cases node with
  | file content =>
    obtain ⟨name, rest, rfl⟩ := List.exists_cons_of_ne_nil ne
    rfl
  | folder mode inside =>
    obtain ⟨inside', same⟩ := exists_put_folder ne mode inside new
    rw [same]
    rfl

/-- What is put below a place changes nothing outside of it, whether it can be put there or not. -/
theorem sameOutside_put (below : base <+: p) (root new : Node) :
    SameOutside base root (root.put new p) := by
  intro q outside
  rcases below_or_above_or_apart p q with ⟨rest, rfl⟩ | ⟨rest, more, rfl⟩ | apart
  · exact absurd (below.trans (List.prefix_append p rest)) outside
  · rw [find?_put_append more, Option.map_map]
    exact congrArg (Option.map · (root.find? q)) (funext fun node => stem_put more node new)
  · rw [find?_put_of_apart apart]

theorem stem_remove (rest : Place) (node : Node) : (node.remove rest).stem = node.stem := by
  cases node with
  | file content => cases rest <;> rfl
  | folder mode inside =>
    match rest with
    | [] => rfl
    | [name] => rfl
    | name :: next :: rest =>
      rw [remove]
      · split <;> rfl
      · exact List.cons_ne_nil next rest

/-- What is removed below a place changes the place as it would a tree of its own. -/
theorem find?_remove_append (ne : rest ≠ []) (root : Node) (q : Place) :
    (root.remove (q ++ rest)).find? q = (root.find? q).map fun node => node.remove rest := by
  induction q generalizing root with
  | nil => rw [List.nil_append, find?_nil, find?_nil, Option.map_some]
  | cons name q ih =>
    cases root with
    | file content => rfl
    | folder mode inside =>
      rw [List.cons_append, remove]
      · cases found : inside.child? name with
        | some child =>
          simp only [find?, Listing.child?_put, if_true, found]
          exact ih child
        | none => simp only [find?, found, Option.map_none]
      · exact List.append_ne_nil_of_right_ne_nil _ ne

theorem sameOutside_remove (base : Place) (root : Node) :
    SameOutside base root (root.remove base) := by
  intro q outside
  rcases below_or_above_or_apart base q with ⟨rest, rfl⟩ | ⟨rest, more, rfl⟩ | apart
  · exact absurd (List.prefix_append base rest) outside
  · rw [find?_remove_append more, Option.map_map]
    exact congrArg (Option.map · (root.find? q)) (funext fun node => stem_remove rest node)
  · rw [find?_remove_of_apart apart]

/-- Nothing stands where something has been removed. -/
theorem find?_remove_self (ne : p ≠ []) (root : Node) : (root.remove p).find? p = none := by
  induction p generalizing root with
  | nil => exact absurd rfl ne
  | cons name p ih =>
    cases root with
    | file content => rfl
    | folder mode inside =>
      cases p with
      | nil => simp only [remove, find?, Listing.child?_remove, if_true]
      | cons next p =>
        rw [remove]
        · cases found : inside.child? name with
          | some child =>
            simp only [find?, Listing.child?_put, if_true]
            exact ih (List.cons_ne_nil next p) child
          | none => simp only [find?, found]
        · exact List.cons_ne_nil next p

/-! ### Storing files and making folders -/

/-- A file that is stored below a place changes nothing outside of it. -/
theorem sameOutside_storeAt (below : base <+: p) (stored : root.storeAt p data = .ok root') :
    SameOutside base root root' := by
  rcases storeAt_cases stored with ⟨rfl, -⟩ | ⟨f, placed, -, -⟩
  · exact .refl base _
  · rw [placed.tree]
    exact sameOutside_put below _ _

/-- Folders that are made on steps which lead below a place, or to folders that are there. -/
theorem sameOutside_makeFoldersFrom {steps : List Component}
    (leads : ∀ front, front <+: steps → front ≠ [] →
      base <+: front.foldl Component.leads p ∨ root.HasFolder (front.foldl Component.leads p))
    (made : root.makeFoldersFrom p steps = .ok root') : SameOutside base root root' := by
  induction steps generalizing root p with
  | nil =>
    cases made
    exact .refl base _
  | cons step rest ih =>
    have first := leads [step] (List.cons_prefix_cons.mpr ⟨rfl, List.nil_prefix⟩)
      (List.cons_ne_nil _ _)
    have later : ∀ front, front <+: rest → front ≠ [] →
        base <+: front.foldl Component.leads (step.leads p) ∨
          root.HasFolder (front.foldl Component.leads (step.leads p)) :=
      fun front lead _ => leads (step :: front) (List.cons_prefix_cons.mpr ⟨rfl, lead⟩)
        (List.cons_ne_nil _ _)
    obtain ⟨middle, onward, rfl | ⟨free, folder⟩⟩ := makeFoldersFrom_cons made
    · exact ih later onward
    · -- a folder is only made where none stands, so the step leads below the place
      have below : base <+: step.leads p := by
        refine first.resolve_right ?_
        rintro ⟨mode, inside, stands⟩
        cases free.symm.trans stands
      have placed := placed_of_makeFolderAt folder
      have put := sameOutside_put below root .newFolder
      rw [← placed.tree] at put
      refine put.trans (ih ?_ onward)
      intro front lead ne
      exact (later front lead ne).imp_right (placed.folder _)

end Node

end ScriptSuite
