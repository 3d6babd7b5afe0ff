import ScriptSuite.Proofs.Host.Confining
import ScriptSuite.Proofs.Path.Parent
import ScriptSuite.Proofs.Session.Filling

/-!
How setting up a session stays in its sandbox.

An archive file is written to a path that is lexically at or below the sandbox
(`isWithin_of_sandboxPath`), and so is each folder that is missing on the way to it
(`parent_of_sandboxPath`). So whatever stands outside the sandbox stands as before, wherever the
setting up ends (`open?_within`). A name that is absolute or has a step up ends it, with what the
entries before it have left (`open?_of_escapes`).
-/

namespace ScriptSuite

namespace Host

variable {h h' h'' : Host} {p root : Path} {base : Place} {data : Bytes}

/-- Nothing has changed on a host but files at or below a place. -/
structure ChangesWithin (base : Place) (h h' : Host) : Prop where
  only : ∃ files, h' = { h with files := files }
  outside : h.files.SameOutside base h'.files
  folders : h.files.KeepsFolders h'.files

namespace ChangesWithin

theorem refl (base : Place) (h : Host) : ChangesWithin base h h :=
  ⟨⟨h.files, rfl⟩, .refl base h.files, .refl h.files⟩

theorem trans (first : ChangesWithin base h h') (second : ChangesWithin base h' h'') :
    ChangesWithin base h h'' where
  only := by
    obtain ⟨files, rfl⟩ := first.only
    obtain ⟨files', rfl⟩ := second.only
    exact ⟨files', rfl⟩
  outside := first.outside.trans second.outside
  folders := first.folders.trans second.folders

theorem folder (within : ChangesWithin base h h') : h'.folder = h.folder := by
  obtain ⟨files, rfl⟩ := within.only
  rfl

end ChangesWithin

theorem write_within (below : base <+: p.landing h.folder) (data : Bytes) :
    ChangesWithin base h (h.write p data).2 := by
  cases written : h.write p data with
  | mk result h' =>
    cases result with
    | ok _ =>
      obtain ⟨place, files, found, -, stored, rfl⟩ := write_ok written
      obtain rfl := Node.placeFrom_eq found
      exact ⟨⟨files, rfl⟩, Node.sameOutside_storeAt below stored, (Node.keeps_storeAt stored).1⟩
    | error e =>
      rw [Host.write] at written
      split at written <;> cases written
      exact .refl base h

theorem makeFolders_within
    (leads : ∀ front, front <+: p.components → front ≠ [] →
      base <+: front.foldl Component.leads h.folder ∨
        h.files.HasFolder (front.foldl Component.leads h.folder)) :
    ChangesWithin base h (h.makeFolders p).2 := by
  cases made : h.makeFolders p with
  | mk result h' =>
    cases result with
    | ok _ =>
      obtain ⟨files, there, rfl⟩ := makeFolders_ok made
      exact ⟨⟨files, rfl⟩, Node.sameOutside_makeFoldersFrom leads there,
        (Node.keeps_makeFoldersFrom there).1⟩
    | error e =>
      rw [makeFolders] at made
      split at made
      · cases made
        exact .refl base h
      · split at made
        · cases made
          exact .refl base h
        · rw [updated.eq_def] at made
          split at made <;> cases made
          exact .refl base h

/-- A path leads to a folder that stands on a host. -/
structure LeadsToFolder (h : Host) (p : Path) : Prop where
  followed : h.files.follow h.folder p.components = .ok (p.landing h.folder)
  stands : h.files.HasFolder (p.landing h.folder)

theorem leadsToFolder_of_node {mode : Nat} {inside : Listing}
    (denotes : h.node p = .ok (.folder mode inside)) :
    h.place p = .ok (p.landing h.folder) ∧ h.LeadsToFolder p := by
  rw [node, Node.nodeFrom] at denotes
  split at denotes
  · cases denotes
  · next place found =>
    split at denotes
    · next folder stands =>
      cases denotes
      obtain rfl := Node.placeFrom_eq found
      exact ⟨found, (Node.placeFrom_ok found).1, ⟨mode, inside, stands⟩⟩
    · cases denotes

/-- A path that leads to a folder still does after changes below it. -/
theorem LeadsToFolder.within (leads : h.LeadsToFolder p) (within : h.ChangesWithin base h') :
    h'.LeadsToFolder p := by
  constructor
  · rw [within.folder]
    exact Node.follow_of_keepsFolders within.folders leads.followed
  · rw [within.folder]
    exact within.folders _ leads.stands

/-- On the way to a folder and on from there without steps up, one passes folders that stand and
places at or below that folder. -/
theorem LeadsToFolder.front (leads : h.LeadsToFolder p) {steps front : List Component}
    (stays : steps.all Session.staysBelow = true) (way : front <+: p.components ++ steps) :
    p.landing h.folder <+: front.foldl Component.leads h.folder ∨
      h.files.HasFolder (front.foldl Component.leads h.folder) := by
  rcases List.prefix_or_prefix_of_prefix way (List.prefix_append p.components steps) with
    above | ⟨more, rfl⟩
  · obtain ⟨rest, split⟩ := above
    have followed := leads.followed
    rw [← split] at followed
    exact .inr (Node.hasFolder_of_follow (Node.follow_append followed) leads.stands)
  · obtain ⟨last, split⟩ := (List.prefix_append_right_inj p.components).mp way
    rw [← split, List.all_append, Bool.and_eq_true] at stays
    rw [List.foldl_append, Path.foldl_leads_append stays.1]
    exact .inl (List.prefix_append _ _)

end Host

namespace Session

variable {h : Host} {root p parent : Path} {name : String}

/-! ### The paths that are written -/

/-- An archive file has a path if and only if its name stays below, and it is the joined one
then. -/
theorem sandboxPath_eq_ok_iff :
    sandboxPath root name = .ok p ↔
      (Path.mk name).components.all staysBelow = true ∧ p = root.join name := by
  rw [sandboxPath]
  split
  · next stays => simp [stays, eq_comm]
  · next escapes => simp [escapes]

theorem isWithin_clean_of_prefix (absolute : p.isAbsolute = true)
    (rootAbsolute : root.isAbsolute = true) (below : root.landing [] <+: p.landing []) :
    p.clean.isWithin root.clean = true := by
  rw [← Path.landing_clean rootAbsolute] at below
  exact (Path.isWithin_clean_iff absolute (Path.isAbsolute_clean rootAbsolute) below).mpr
    (Path.noUp_clean rootAbsolute)

/-- What is written is lexically at or below the sandbox. -/
theorem isWithin_of_sandboxPath (absolute : root.isAbsolute = true)
    (inside : sandboxPath root name = .ok p) : p.clean.isWithin root.clean = true := by
  obtain ⟨stays, rfl⟩ := sandboxPath_eq_ok_iff.mp inside
  exact isWithin_clean_of_prefix (Path.isAbsolute_join absolute name) absolute
    (Path.landing_join_prefix (Path.chars_ne_nil absolute) stays [])

/-- An archive name makes its steps behind those of the sandbox. -/
theorem exists_steps (absolute : root.isAbsolute = true)
    (stays : (Path.mk name).components.all staysBelow = true) :
    ∃ steps, steps.all staysBelow = true ∧
      (root.join name).components = root.components ++ steps := by
  have joined := Path.components_join (Path.chars_ne_nil absolute) (Path.relative_of_stays stays)
  rw [Path.components, Path.componentsOf, List.all_append, Bool.and_eq_true] at stays
  exact ⟨_, stays.2, joined⟩

/-- On the way to an archive file one passes folders that stand and places in the sandbox. -/
theorem front_of_parent (absolute : root.isAbsolute = true) (leads : h.LeadsToFolder root)
    (inside : sandboxPath root name = .ok p) (above : p.parent? = some parent)
    {front : List Component} (way : front <+: parent.components) :
    root.landing h.folder <+: front.foldl Component.leads h.folder ∨
      h.files.HasFolder (front.foldl Component.leads h.folder) := by
  obtain ⟨stays, rfl⟩ := sandboxPath_eq_ok_iff.mp inside
  obtain ⟨steps, stay, components⟩ := exists_steps absolute stays
  rw [Path.components_parent? (Path.isAbsolute_join absolute name) above, components] at way
  exact leads.front stay (way.trans (List.dropLast_prefix _))

/-- The folder of an archive file is lexically at or below the sandbox, or stands already. -/
theorem parent_of_sandboxPath (absolute : root.isAbsolute = true) (leads : h.LeadsToFolder root)
    (inside : sandboxPath root name = .ok p) (above : p.parent? = some parent) :
    parent.clean.isWithin root.clean = true ∨ h.files.HasFolder (parent.landing h.folder) := by
  refine (front_of_parent absolute leads inside above List.prefix_rfl).imp_left fun below => ?_
  obtain ⟨-, rfl⟩ := sandboxPath_eq_ok_iff.mp inside
  have parentAbsolute := Path.isAbsolute_parent? (Path.isAbsolute_join absolute name) above
  rw [Path.landing_of_isAbsolute absolute h.folder [], ← Path.landing,
    Path.landing_of_isAbsolute parentAbsolute h.folder []] at below
  exact isWithin_clean_of_prefix parentAbsolute absolute below

/-! ### What is changed -/

theorem writeArchiveFile_within (absolute : root.isAbsolute = true) (leads : h.LeadsToFolder root)
    (file : ArchiveFile) :
    h.ChangesWithin (root.landing h.folder) (writeArchiveFile root file h).2 := by
  have target {h : Host} {p : Path} (inside : sandboxPath root file.name = .ok p) :
      root.landing h.folder <+: p.landing h.folder := by
    obtain ⟨stays, rfl⟩ := sandboxPath_eq_ok_iff.mp inside
    exact Path.landing_join_prefix (Path.chars_ne_nil absolute) stays h.folder
  rw [writeArchiveFile]
  split
  · exact .refl _ h
  · next path inside =>
    split
    · exact Host.write_within (target inside) file.data
    · next parent above =>
      have made := Host.makeFolders_within (p := parent) fun front way _ =>
        front_of_parent absolute leads inside above way
      split
      · next failed => rwa [failed] at made
      · next middle done =>
        rw [done] at made
        -- the folders on the way do not change where the path leads to
        have wrote := Host.write_within (target (h := middle) inside) file.data
        rw [made.folder] at wrote
        exact made.trans wrote

/-- To write an archive changes nothing outside of the sandbox, also if it fails halfway. -/
theorem writeArchive_within (absolute : root.isAbsolute = true) (leads : h.LeadsToFolder root)
    (files : List ArchiveFile) :
    h.ChangesWithin (root.landing h.folder) (writeArchive root files h).2 := by
  induction files generalizing h with
  | nil => exact .refl _ h
  | cons file rest ih =>
    have wrote := writeArchiveFile_within absolute leads file
    rw [writeArchive]
    split
    · next failed => rwa [failed] at wrote
    · next middle done =>
      rw [done] at wrote
      have others := ih (leads.within wrote)
      rw [wrote.folder] at others
      exact wrote.trans others

/-- Whether a session can be set up or not, nothing is changed but files in the sandbox. -/
theorem open?_within (absolute : root.isAbsolute = true) (leads : h.LeadsToFolder root)
    (script : Script) (options : SessionOptions) :
    h.ChangesWithin (root.landing h.folder) (hostAfter (open? script root options h)) := by
  have wrote := writeArchive_within absolute leads script.files
  rw [open?]
  split
  · next failed => rwa [failed] at wrote
  · next middle done =>
    rw [done] at wrote
    have scratch : (Path.mk scratchFolder).components.all staysBelow = true := by decide
    obtain ⟨steps, stays, components⟩ := exists_steps absolute scratch
    have made := Host.makeFolders_within (h := middle) (p := root.join scratchFolder)
      fun front way _ => (leads.within wrote).front stays (components ▸ way)
    rw [wrote.folder] at made
    simp only
    split
    · next failed =>
      rw [failed] at made
      exact wrote.trans made
    · next done =>
      rw [done] at made
      exact wrote.trans made

/-! ### Names that lead out of the sandbox -/

/-- The name of an archive file is absolute or has a step up. -/
def Escapes (file : ArchiveFile) : Prop :=
  (Path.mk file.name).isAbsolute = true ∨ .up ∈ (Path.mk file.name).components

theorem Escapes.not_stays {file : ArchiveFile} (escapes : Escapes file) :
    ¬ (Path.mk file.name).components.all staysBelow = true := by
  intro stays
  rw [List.all_eq_true] at stays
  rcases escapes with absolute | up
  · obtain ⟨steps, starts⟩ := Path.exists_components_of_isAbsolute absolute
    exact Bool.false_ne_true (stays .root (starts ▸ List.mem_cons_self))
  · exact Bool.false_ne_true (stays .up up)

/-- Neither an entry that escapes nor any after it is written. -/
theorem writeArchive_of_escapes {before after : List ArchiveFile} {file : ArchiveFile}
    (escapes : Escapes file) (h : Host) :
    ∃ err, writeArchive root (before ++ file :: after) h =
      (.error err, (writeArchive root before h).2) := by
  induction before generalizing h with
  | nil =>
    obtain ⟨err, refused⟩ : ∃ err, writeArchiveFile root file h = (.error err, h) := by
      rw [writeArchiveFile, sandboxPath, if_neg escapes.not_stays]
      exact ⟨_, rfl⟩
    exact ⟨err, by simp only [List.nil_append, writeArchive, refused]⟩
  | cons first before ih =>
    rw [List.cons_append, writeArchive, writeArchive]
    cases wrote : writeArchiveFile root first h with
    | mk result middle =>
      cases result with
      | error err => exact ⟨err, rfl⟩
      | ok _ => exact ih middle

/-- A session is not set up if an entry escapes, and all that has been written are entries before
it. -/
theorem open?_of_escapes {script : Script} {before after : List ArchiveFile} {file : ArchiveFile}
    (entries : script.files = before ++ file :: after) (escapes : Escapes file)
    (options : SessionOptions) (h : Host) :
    ∃ err, open? script root options h = .error (err, (writeArchive root before h).2) := by
  obtain ⟨err, refused⟩ : ∃ err, writeArchive root (before ++ file :: after) h =
      (.error err, (writeArchive root before h).2) := writeArchive_of_escapes escapes h
  exact ⟨err, by rw [open?, entries, refused]⟩

end Session
end ScriptSuite
