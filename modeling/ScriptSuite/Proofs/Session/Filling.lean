import ScriptSuite.Proofs.Host.Storing
import ScriptSuite.Proofs.Session.Change
import ScriptSuite.Proofs.Session.Sandbox
import ScriptSuite.Script.Parser

/-!
What a sandbox holds when a session has been set up.

The entries of an archive are written one after another, each to the place below the sandbox that
the steps of its name lead to (`writeArchiveFile_ok`). Different names may lead to one place, as
`a` and `./a` do (`ArchiveFile.SamePlace`), and then the file holds the data of the last of these
entries. So a sandbox holds what the archive says if and only if entries of one place have the
same data (`sandbox_holds_archive_iff`).
-/

namespace ScriptSuite

/-- The place of an entry below the sandbox that it is written to. -/
def ArchiveFile.place (file : ArchiveFile) : Place :=
  (Path.mk file.name).landing []

/-- Two entries are written to one file. -/
def ArchiveFile.SamePlace (file other : ArchiveFile) : Prop :=
  file.place = other.place

instance : DecidableRel ArchiveFile.SamePlace :=
  fun file other => inferInstanceAs (Decidable (file.place = other.place))

namespace Host

variable {h h' h'' : Host} {p : Path} {data : Bytes}

/-- Data is read if and only if the path leads to a file that holds it. -/
theorem read_eq_ok_iff :
    h.read p = .ok data ↔
      ∃ place f, h.place p = .ok place ∧ h.files.find? place = some (.file f) ∧ f.data = data := by
  rw [read, node, Node.nodeFrom, Host.place]
  cases h.files.placeFrom h.folder p with
  | error e => simp
  | ok place =>
    cases stands : h.files.find? place with
    | none => simp [stands]
    | some node => cases node <;> simp [stands]

theorem makeFolders_ok (made : h.makeFolders p = (.ok (), h')) :
    ∃ files, h.files.makeFoldersFrom h.folder p.components = .ok files ∧
      h' = { h with files := files } := by
  rw [makeFolders] at made
  split at made
  · cases made
  · split at made
    · cases made
    · cases there : h.files.makeFoldersFrom h.folder p.components with
      | ok files =>
        rw [there] at made
        cases made
        exact ⟨files, rfl, rfl⟩
      | error r =>
        rw [there] at made
        cases made

/-! ### Hosts that are filled -/

/-- Files have been stored and folders been made on a host. -/
structure Fills (h h' : Host) : Prop where
  folder : h'.folder = h.folder
  folders : h.files.KeepsFolders h'.files
  plain : ∀ base, h.files.DeviceFree base → h'.files.DeviceFree base

theorem Fills.refl (h : Host) : h.Fills h :=
  ⟨rfl, .refl _, fun _ free => free⟩

theorem Fills.trans (first : h.Fills h') (second : h'.Fills h'') : h.Fills h'' where
  folder := second.folder.trans first.folder
  folders := first.folders.trans second.folders
  plain base free := second.plain base (first.plain base free)

/-- A path that may denote a file leads to the same place for good. -/
theorem Fills.place {target : Place} (fills : h.Fills h') (noFolder : p.wantsFolder = false)
    (found : h.place p = .ok target) : h'.place p = .ok target := by
  rw [Host.place, fills.folder]
  exact Node.placeFrom_of_keepsFolders fills.folders noFolder found

/-- To write a file takes no folder away. -/
theorem fills_write (written : h.write p data = (.ok (), h')) : h.Fills h' := by
  obtain ⟨place, files, -, -, stored, rfl⟩ := write_ok written
  obtain ⟨folders, plain⟩ := Node.keeps_storeAt stored
  exact ⟨rfl, folders, plain⟩

theorem fills_makeFolders (made : h.makeFolders p = (.ok (), h')) : h.Fills h' := by
  obtain ⟨files, there, rfl⟩ := makeFolders_ok made
  obtain ⟨folders, plain⟩ := Node.keeps_makeFoldersFrom there
  exact ⟨rfl, folders, plain⟩

theorem deviceFree_of_empty {mode : Nat} (empty : h.node p = .ok (.folder mode .empty)) :
    p.chars ≠ [] ∧ h.files.DeviceFree (p.landing h.folder) := by
  rw [node, Node.nodeFrom] at empty
  split at empty
  · cases empty
  · next place found =>
    split at empty
    · next folder stands =>
      cases empty
      constructor
      · intro noText
        have isEmpty : p.text.isEmpty = true := by
          rw [String.isEmpty_iff, ← String.toList_eq_nil_iff]
          exact noText
        cases (Node.placeFrom_eq_ok_iff.mp found).1.notEmpty.symm.trans isEmpty
      · rw [← Node.placeFrom_eq found]
        exact Node.deviceFree_of_empty stands
    · cases empty

end Host

namespace Session

variable {h h' : Host} {root : Path} {file : ArchiveFile} {entries : List ArchiveFile}

/-- An entry of an archive has been written into a sandbox. -/
structure Wrote (root : Path) (file : ArchiveFile) (h h' : Host) : Prop where
  fills : h.Fills h'
  noFolder : (root.join file.name).wantsFolder = false
  found : h'.place (root.join file.name) = .ok (root.landing h.folder ++ file.place)
  /-- Files at other places are as before. -/
  others : ∀ q f, q ≠ root.landing h.folder ++ file.place →
    h.files.find? q = some (.file f) → h'.files.find? q = some (.file f)
  stored : h.files.DeviceFree (root.landing h.folder) →
    ∃ f, h'.files.find? (root.landing h.folder ++ file.place) = some (.file f) ∧
      f.data = file.data

/-- What is written to the path of an entry is written to its place. -/
theorem wrote_of_write (ne : root.chars ≠ [])
    (stays : (Path.mk file.name).components.all staysBelow = true)
    (written : h.write (root.join file.name) file.data = (.ok (), h')) :
    Wrote root file h h' := by
  have fills := Host.fills_write written
  obtain ⟨place, files, found, noFolder, stored, rfl⟩ := Host.write_ok written
  have landing : place = root.landing h.folder ++ file.place := by
    rw [Node.placeFrom_eq found, Path.landing_join ne stays]
    rfl
  subst landing
  refine ⟨fills, noFolder, fills.place noFolder found, ?_, ?_⟩
  · intro q f apart there
    exact Node.find?_storeAt stored there apart.symm
  · intro free
    rcases Node.storeAt_cases stored with ⟨-, f, there, device⟩ | ⟨f, placed, data, -⟩
    · have plain := free _ f (List.prefix_append _ _) there
      rw [device] at plain
      cases plain
    · exact ⟨f, placed.there, data⟩

/-- An entry that has been written is at its place. -/
theorem writeArchiveFile_ok (ne : root.chars ≠ [])
    (written : writeArchiveFile root file h = (.ok (), h')) : Wrote root file h h' := by
  rw [writeArchiveFile, sandboxPath] at written
  by_cases stays : (Path.mk file.name).components.all staysBelow = true
  · simp only [stays, if_true] at written
    split at written
    · exact wrote_of_write ne stays written
    · split at written
      · cases written
      · next middle made =>
        have fills := Host.fills_makeFolders made
        have wrote := wrote_of_write ne stays written
        obtain ⟨files, there, rfl⟩ := Host.makeFolders_ok made
        refine ⟨fills.trans wrote.fills, wrote.noFolder, wrote.found, ?_, ?_⟩
        · intro q f apart stood
          exact wrote.others q f apart (Node.find?_makeFoldersFrom there stood)
        · intro free
          exact wrote.stored (fills.plain _ free)
  · rw [if_neg stays] at written
    cases written

/-- Of an archive that has been written the first file has been, and after it the others. -/
theorem writeArchive_cons_ok {rest : List ArchiveFile}
    (written : writeArchive root (file :: rest) h = (.ok (), h')) :
    ∃ middle, writeArchiveFile root file h = (.ok (), middle) ∧
      writeArchive root rest middle = (.ok (), h') := by
  rw [writeArchive] at written
  split at written
  · cases written
  · next middle first => exact ⟨middle, first, written⟩

/-- All paths of the entries lead to their places when an archive has been written. -/
theorem writeArchive_places (ne : root.chars ≠ [])
    (written : writeArchive root entries h = (.ok (), h')) :
    h.Fills h' ∧ ∀ file ∈ entries, (root.join file.name).wantsFolder = false ∧
      h'.place (root.join file.name) = .ok (root.landing h.folder ++ file.place) := by
  induction entries generalizing h with
  | nil =>
    cases written
    exact ⟨.refl _, nofun⟩
  | cons first rest ih =>
    obtain ⟨middle, head, tail⟩ := writeArchive_cons_ok written
    have wrote := writeArchiveFile_ok ne head
    obtain ⟨fills, places⟩ := ih tail
    rw [wrote.fills.folder] at places
    refine ⟨wrote.fills.trans fills, ?_⟩
    rintro file (- | ⟨-, mem⟩)
    · exact ⟨wrote.noFolder, fills.place wrote.noFolder wrote.found⟩
    · exact places file mem

/-- A file outlasts the entries of other places. -/
theorem writeArchive_others (ne : root.chars ≠ [])
    (written : writeArchive root entries h = (.ok (), h')) {q : Place} {f : File}
    (others : ∀ file ∈ entries, q ≠ root.landing h.folder ++ file.place)
    (stood : h.files.find? q = some (.file f)) : h'.files.find? q = some (.file f) := by
  induction entries generalizing h with
  | nil =>
    cases written
    exact stood
  | cons first rest ih =>
    obtain ⟨middle, head, tail⟩ := writeArchive_cons_ok written
    have wrote := writeArchiveFile_ok ne head
    apply ih tail
    · intro file mem
      rw [wrote.fills.folder]
      exact others file (List.mem_cons_of_mem first mem)
    · exact wrote.others q f (others first List.mem_cons_self) stood

/-- The file at a place holds the data of the last entry that is written there. -/
theorem writeArchive_last (ne : root.chars ≠ [])
    (free : h.files.DeviceFree (root.landing h.folder)) {before after : List ArchiveFile}
    (written : writeArchive root (before ++ file :: after) h = (.ok (), h'))
    (last : ∀ later ∈ after, ¬ file.SamePlace later) :
    ∃ f, h'.files.find? (root.landing h.folder ++ file.place) = some (.file f) ∧
      f.data = file.data := by
  induction before generalizing h with
  | nil =>
    obtain ⟨middle, head, tail⟩ := writeArchive_cons_ok written
    have wrote := writeArchiveFile_ok ne head
    obtain ⟨f, there, data⟩ := wrote.stored free
    refine ⟨f, writeArchive_others ne tail ?_ there, data⟩
    intro later mem
    rw [wrote.fills.folder]
    exact fun same => last later mem (List.append_cancel_left same)
  | cons first before ih =>
    obtain ⟨middle, head, tail⟩ := writeArchive_cons_ok written
    have wrote := writeArchiveFile_ok ne head
    rw [← wrote.fills.folder]
    apply ih _ tail
    rw [wrote.fills.folder]
    exact wrote.fills.plain _ free

/-- The last of the entries that are written to the file of a given one. -/
theorem exists_last_samePlace (mem : file ∈ entries) :
    ∃ before last after, entries = before ++ last :: after ∧ file.SamePlace last ∧
      ∀ later ∈ after, ¬ file.SamePlace later := by
  have found : (entries.reverse.find? fun other => decide (file.SamePlace other)).isSome := by
    rw [List.find?_isSome]
    exact ⟨file, List.mem_reverse.mpr mem, decide_eq_true rfl⟩
  obtain ⟨last, found⟩ := Option.isSome_iff_exists.mp found
  obtain ⟨same, after, before, split, none⟩ := List.find?_eq_some_iff_append.mp found
  refine ⟨before.reverse, last, after.reverse, ?_, of_decide_eq_true same, ?_⟩
  · rw [← List.reverse_reverse entries, split]
    simp
  · intro later mem
    simpa using none later (List.mem_reverse.mp mem)

/-- A session that has been set up has its archive written, and the scratch folder made. -/
theorem open?_ok {script : Script} {options : SessionOptions} {s : Session}
    (opened : open? script root options h = .ok s) :
    ∃ middle, writeArchive root script.files h = (.ok (), middle) ∧
      middle.makeFolders (root.join scratchFolder) = (.ok (), s.host) := by
  rw [open?] at opened
  split at opened
  · cases opened
  · next middle written =>
    simp only at opened
    split at opened
    · cases opened
    · next made =>
      cases opened
      exact ⟨middle, written, made⟩

/-- In a sandbox that was empty each file holds the data of the last entry that is written to it
when a session has been set up. So it holds what the archive says if and only if entries of one
place have the same data. -/
theorem sandbox_holds_archive_iff {mode : Nat} {script : Script} {options : SessionOptions}
    {s : Session} (empty : h.node root = .ok (.folder mode .empty))
    (opened : open? script root options h = .ok s) :
    (∀ before file after, script.files = before ++ file :: after →
      (∀ later ∈ after, ¬ file.SamePlace later) →
      s.host.read (root.join file.name) = .ok file.data) ∧
    ((∀ file ∈ script.files, s.host.read (root.join file.name) = .ok file.data) ↔
      ∀ file ∈ script.files, ∀ other ∈ script.files,
        file.SamePlace other → file.data = other.data) := by
  obtain ⟨ne, free⟩ := Host.deviceFree_of_empty empty
  obtain ⟨middle, written, made⟩ := open?_ok opened
  obtain ⟨-, places⟩ := writeArchive_places ne written
  have place : ∀ file ∈ script.files,
      s.host.place (root.join file.name) = .ok (root.landing h.folder ++ file.place) := by
    intro file mem
    obtain ⟨noFolder, found⟩ := places file mem
    exact (Host.fills_makeFolders made).place noFolder found
  -- what the last entry of a place says is read at all paths that lead there
  have holds : ∀ before last after, script.files = before ++ last :: after →
      (∀ later ∈ after, ¬ last.SamePlace later) → ∀ file ∈ script.files, file.SamePlace last →
      s.host.read (root.join file.name) = .ok last.data := by
    intro before last after split none file mem same
    rw [split] at written
    obtain ⟨f, there, data⟩ := writeArchive_last ne free written none
    obtain ⟨files, folders, host⟩ := Host.makeFolders_ok made
    refine Host.read_eq_ok_iff.mpr ⟨_, f, place file mem, ?_, data⟩
    rw [same, host]
    exact Node.find?_makeFoldersFrom folders there
  refine ⟨?_, ?_, ?_⟩
  · intro before file after split last
    exact holds before file after split last file (by simp [split]) rfl
  · intro faithful file mem other mem' same
    obtain ⟨p, f, found, there, data⟩ := Host.read_eq_ok_iff.mp (faithful file mem)
    obtain ⟨p', f', found', there', data'⟩ := Host.read_eq_ok_iff.mp (faithful other mem')
    rw [place file mem] at found
    rw [place other mem', ← same] at found'
    cases found
    cases found'
    cases there.symm.trans there'
    exact data.symm.trans data'
  · intro agree file mem
    obtain ⟨before, last, after, split, same, none⟩ := exists_last_samePlace mem
    rw [agree file mem last (by simp [split]) same]
    refine holds before last after split ?_ file mem same
    intro later mem' same'
    exact none later mem' (same.trans same')

/-! ### Two spellings of a name -/

/-- A script whose archive has two names for one file. -/
def spellings (second : String) : String :=
  "-- a --\nx\n-- ./a --\n" ++ second ++ "\n"

/-- What is read of such a script. -/
def spelt (second : String) : Script :=
  ⟨[], [⟨"a", Text.bytesOf "x\n", .lineFeed⟩,
    ⟨"./a", Text.bytesOf (second ++ "\n"), .lineFeed⟩], ""⟩

/-- An empty folder. -/
def bareFolder : Path := ⟨"/w"⟩

/-- A host that has nothing but this folder. -/
def bareHost : Host :=
  hostOf (.folder ['w'] 0o755 .empty .empty)

def bareOptions : SessionOptions :=
  { environment := [], canUpdate := false, deadline := none, waitTimeout := .ofSeconds 10,
    teardownGrace := .ofSeconds 5, programs := [] }

theorem bareHost_node : bareHost.node bareFolder = .ok (.folder 0o755 .empty) := by
  decide +kernel

/-- Where both say the same, the file holds that. -/
theorem sandbox_holds_archive_iff_spellings :
    ∃ s, Script.parse (spellings "x") = .ok (spelt "x") ∧
      open? (spelt "x") bareFolder bareOptions bareHost = .ok s ∧
      ∀ file ∈ (spelt "x").files, s.host.read (bareFolder.join file.name) = .ok file.data := by
  have opens : (open? (spelt "x") bareFolder bareOptions bareHost).isOk = true := by
    decide +kernel
  have agree : ∀ file ∈ (spelt "x").files, ∀ other ∈ (spelt "x").files,
      file.SamePlace other → file.data = other.data := by decide +kernel
  cases opened : open? (spelt "x") bareFolder bareOptions bareHost with
  | error e =>
    rw [opened] at opens
    cases opens
  | ok s =>
    refine ⟨s, by decide +kernel, rfl, ?_⟩
    exact (sandbox_holds_archive_iff bareHost_node opened).2.mpr agree

/-- Otherwise the first entry is lost, although its name stands in the archive but once. -/
theorem not_holds_archive_of_spellings :
    ∃ s, Script.parse (spellings "y") = .ok (spelt "y") ∧
      bareHost.node bareFolder = .ok (.folder 0o755 .empty) ∧
      open? (spelt "y") bareFolder bareOptions bareHost = .ok s ∧
      s.host.read (bareFolder.join "a") = .ok (Text.bytesOf "y\n") ∧
      ¬ ∀ file ∈ (spelt "y").files, s.host.read (bareFolder.join file.name) = .ok file.data := by
  have reads : (open? (spelt "y") bareFolder bareOptions bareHost).toOption.map
      (fun s => s.host.read (bareFolder.join "a")) = some (.ok (Text.bytesOf "y\n")) := by
    decide +kernel
  cases opened : open? (spelt "y") bareFolder bareOptions bareHost with
  | error e =>
    rw [opened] at reads
    cases reads
  | ok s =>
    rw [opened] at reads
    have second := Option.some.inj reads
    refine ⟨s, by decide +kernel, bareHost_node, rfl, second, ?_⟩
    intro faithful
    have first := faithful ⟨"a", Text.bytesOf "x\n", .lineFeed⟩ List.mem_cons_self
    have differ : Text.bytesOf "y\n" ≠ Text.bytesOf "x\n" := by decide +kernel
    exact differ (Except.ok.inj (second.symm.trans first))

end Session
end ScriptSuite
