import ScriptSuite.Proofs.Host.Undisturbed
import ScriptSuite.Proofs.Path.Joining

/-!
What sandboxes do to other files.

A sandbox is a new folder, apart from all files that there are (`Holds.makeSandbox`), and all
that is written when a session is set up is written below it (`writeArchive_holds`). So a file
that stood on the host before stands there still (`open?_holds`), and the removal of the sandbox
takes nothing away that is apart from it (`removeSandbox_undisturbed`).
-/

namespace ScriptSuite

open Place (Apart)

/-- The path leads to one place from everywhere, and that is apart from `q`. -/
structure Path.StaysOff (p : Path) (q : Place) : Prop where
  absolute : p.isAbsolute = true
  apart : Apart (p.landing []) q

theorem Path.StaysOff.apart_place {p : Path} {q : Place} (off : p.StaysOff q) {h : Host}
    {place : Place} (found : h.place p = .ok place) : Apart place q := by
  have apart := off.apart
  rwa [Path.landing_of_isAbsolute off.absolute [] h.folder, ← Node.placeFrom_eq found] at apart

theorem Path.staysOff_of_apart {p : Path} {q : Place} (absolute : p.isAbsolute = true) {h : Host}
    {place : Place} (found : h.place p = .ok place) (apart : Apart place q) : p.StaysOff q := by
  refine ⟨absolute, ?_⟩
  rwa [Path.landing_of_isAbsolute absolute [] h.folder, ← Node.placeFrom_eq found]

theorem Path.withoutSlashes_eq_self {p : Path} (noFolder : p.wantsFolder = false) :
    p.withoutSlashes = p := by
  have noSlash : p.chars.getLast? ≠ some '/' := by
    intro slash
    obtain ⟨front, chars⟩ := List.getLast?_eq_some_iff.mp slash
    rw [wantsFolder, chars, Text.splitAtEach_concat, List.getLast?_concat] at noFolder
    cases noFolder
  rw [withoutSlashes]
  have kept : p.chars.reverse.dropWhile (· == '/') = p.chars.reverse := by
    rw [← List.head?_reverse] at noSlash
    cases reversed : p.chars.reverse with
    | nil => rfl
    | cons c cs =>
      rw [reversed, List.head?_cons] at noSlash
      exact List.dropWhile_cons_of_neg (by simpa using noSlash)
  rw [kept, List.reverse_reverse, chars, String.ofList_toList]

theorem Location.withoutSlashes_eq_self {l : Location} (noFolder : l.wantsFolder = false) :
    l.withoutSlashes = l := by
  cases l with
  | text p => exact congrArg text (Path.withoutSlashes_eq_self noFolder)
  | below p name rest => rfl

namespace Host

/-- A file stands at a place, and the processes are the given ones. -/
structure Holds (q : Place) (f : File) (ps : List Process) (h : Host) : Prop where
  file : h.files.find? q = some (.file f)
  processes : h.processes = ps

variable {h h' : Host} {l : Location} {q : Place} {f : File} {ps : List Process} {data : Bytes}

theorem Holds.undisturbed (before : h.Holds q f ps) (after : h'.Holds q f ps) :
    h.Undisturbed q h' :=
  .of_find? (after.file.trans before.file.symm) (after.processes.trans before.processes.symm)

/-- What is written is stored at the place that the location leads to, which may be that of a
file. -/
theorem write_ok (written : h.write l data = (.ok (), h')) :
    ∃ place files, h.place l = .ok place ∧ l.wantsFolder = false ∧
      h.files.storeAt place data = .ok files ∧ h' = { h with files := files } := by
  rw [write] at written
  split at written
  · cases written
  · next files stored =>
    cases written
    rw [Node.storeFrom] at stored
    split at stored
    · split at stored <;> cases stored
    · split at stored
      · cases stored
      · next place found =>
        split at stored
        · cases stored
        · next mayBeFile =>
          have noFolder : l.wantsFolder = false := Bool.eq_false_iff.mpr mayBeFile
          rw [Location.withoutSlashes_eq_self noFolder] at found
          split at stored
          · cases stored
          · next there =>
            cases stored
            exact ⟨place, _, found, noFolder, there, rfl⟩

/-- A file that a location leads to can be written. -/
theorem exists_write {place : Place} (noFolder : l.wantsFolder = false)
    (found : h.place l = .ok place) (file : h.files.find? place = some (.file f)) (data : Bytes) :
    ∃ h', h.write l data = (.ok (), h') := by
  rw [Host.place] at found
  simp only [Host.write, Node.storeFrom, Location.withoutSlashes_eq_self noFolder, noFolder, found,
    Node.storeAt, file, Bool.false_eq_true, if_false]
  exact ⟨_, rfl⟩

/-- A file outlasts what is written at other places. -/
theorem Holds.write (holds : h.Holds q f ps)
    (elsewhere : ∀ place, h.place l = .ok place → place ≠ q) :
    (h.write l data).2.Holds q f ps := by
  cases written : h.write l data with
  | mk result host =>
    cases result with
    | ok _ =>
      obtain ⟨place, files, found, -, stored, rfl⟩ := write_ok written
      exact ⟨Node.find?_storeAt stored holds.file (elsewhere place found), holds.processes⟩
    | error e =>
      rw [Host.write] at written
      split at written <;> cases written
      exact holds

/-- A file outlasts the making of folders. -/
theorem Holds.makeFolders (holds : h.Holds q f ps) (p : Path) :
    (h.makeFolders p).2.Holds q f ps := by
  rw [Host.makeFolders]
  split
  · exact holds
  · split
    · exact holds
    · cases made : h.files.makeFoldersFrom h.folder p.components with
      | ok files => exact ⟨Node.find?_makeFoldersFrom made holds.file, holds.processes⟩
      | error r => exact holds

theorem isAbsolute_absolute (h : Host) (p : Path) : (h.absolute p).isAbsolute = true := by
  rw [absolute]
  split
  · next absolute => exact absolute
  · refine Path.isAbsolute_join (Path.isAbsolute_iff.mpr ⟨Text.joinWith ['/'] h.home, ?_⟩) _
    rw [Path.chars, String.toList_ofList]

/-- A sandbox is made apart from all files, and they outlast it. -/
theorem Holds.makeSandbox (holds : h.Holds q f ps) (parent : Path) :
    (h.makeSandbox parent).2.Holds q f ps ∧
      ∀ p, (h.makeSandbox parent).1 = .ok p → p.StaysOff q := by
  unfold Host.makeSandbox
  have absolute := Path.isAbsolute_join (h.isAbsolute_absolute parent)
    (sandboxLead ++ String.ofList (madeUpName h.names))
  generalize (h.absolute parent).join _ = path at absolute ⊢
  simp only
  split
  · exact ⟨holds, nofun⟩
  · next place found =>
    split
    · exact ⟨holds, nofun⟩
    · next files made =>
      obtain ⟨apart, file⟩ := Node.apart_of_makeFolderAt made holds.file
      refine ⟨⟨?_, holds.processes⟩, ?_⟩
      · rw [Node.find?_put_of_apart apart, file]
      · intro p same
        cases same
        exact Path.staysOff_of_apart absolute found apart

/-- The removal of a sandbox takes nothing away that is apart from it. -/
theorem removeSandbox_undisturbed {p : Path} (off : p.StaysOff q) (h : Host) :
    h.Undisturbed q (h.removeSandbox p) := by
  rw [removeSandbox]
  split
  · exact .refl q h
  · next place found =>
    exact .of_find? (Node.find?_remove_of_apart (off.apart_place found) h.files) rfl

end Host

namespace Session

variable {h : Host} {root : Path} {q : Place} {f : File} {ps : List Process}

/-- The path of an archive file leads to a place that is apart from what the sandbox is apart
from. -/
theorem sandboxPath_staysOff {name : String} {p : Path} (off : root.StaysOff q)
    (inside : sandboxPath root name = .ok p) : p.StaysOff q := by
  rw [sandboxPath] at inside
  split at inside
  · next stays =>
    cases inside
    refine ⟨Path.isAbsolute_join off.absolute name, ?_⟩
    exact off.apart.below (Path.landing_join_prefix (Path.chars_ne_nil off.absolute) stays [])
  · cases inside

/-- A file apart from the sandbox outlasts every archive file that is written. -/
theorem writeArchiveFile_holds (off : root.StaysOff q) (holds : h.Holds q f ps)
    (entry : ArchiveFile) : (writeArchiveFile root entry h).2.Holds q f ps := by
  rw [writeArchiveFile]
  split
  · exact holds
  · next path inside =>
    have pathOff := sandboxPath_staysOff off inside
    split
    · exact holds.write fun _ found => (pathOff.apart_place found).ne
    · next parent _ =>
      have made := holds.makeFolders parent
      split
      · next failed => rwa [failed] at made
      · next done =>
        rw [done] at made
        exact made.write fun _ found => (pathOff.apart_place found).ne

/-- A file outlasts the writing of an archive into a sandbox. -/
theorem writeArchive_holds (off : root.StaysOff q) (holds : h.Holds q f ps)
    (entries : List ArchiveFile) : (writeArchive root entries h).2.Holds q f ps := by
  induction entries generalizing h with
  | nil => exact holds
  | cons entry rest ih =>
    have wrote := writeArchiveFile_holds off holds entry
    rw [writeArchive]
    split
    · next failed => rwa [failed] at wrote
    · next done =>
      rw [done] at wrote
      exact ih wrote

/-- The host after a session has been set up, or after it could not be. -/
def hostAfter : Except (HostError × Host) Session → Host
  | .error (_, h) => h
  | .ok s => s.host

/-- A file outlasts the setting up of a session. -/
theorem open?_holds (off : root.StaysOff q) (holds : h.Holds q f ps) (script : Script)
    (options : SessionOptions) : (hostAfter (open? script root options h)).Holds q f ps := by
  have wrote := writeArchive_holds off holds script.files
  rw [open?]
  split
  · next failed => rwa [failed] at wrote
  · next host done =>
    rw [done] at wrote
    have made := wrote.makeFolders (root.join scratchFolder)
    simp only
    split
    · next failed => rwa [failed] at made
    · next done => rwa [done] at made

/-- A session that has been set up is a new one, in its sandbox. -/
theorem open?_eq_start {script : Script} {options : SessionOptions} {s : Session}
    (opened : open? script root options h = .ok s) :
    ∃ scratch host, s = start script root scratch options host := by
  rw [open?] at opened
  split at opened
  · cases opened
  · simp only at opened
    split at opened
    · cases opened
    · cases opened
      exact ⟨_, _, rfl⟩

theorem workDir_of_open? {script : Script} {options : SessionOptions} {s : Session}
    (opened : open? script root options h = .ok s) : s.workDir = root := by
  obtain ⟨scratch, host, rfl⟩ := open?_eq_start opened
  rfl

/-! ### The end of a session -/

theorem endJobs_passing {R : Host → Host → Prop} (passing : Host.Passing R) (grace : Duration)
    (jobs : List Job) (warnings : List String) (h : Host) :
    R h (endJobs grace jobs warnings h).2 := by
  induction jobs generalizing warnings h with
  | nil => exact passing.refl h
  | cons job rest ih =>
    have ended := job.terminate_watching passing.watching grace h
    rw [endJobs]
    split
    · next done =>
      rw [done] at ended
      exact passing.trans ended (ih _ _)
    · next failed =>
      rw [failed] at ended
      exact passing.trans ended (ih _ _)
    · next failed => rwa [failed] at ended

/-- What holds of passing time holds of the end of all jobs. -/
theorem teardown_passing {R : Host → Host → Prop} (passing : Host.Passing R) (s : Session) :
    R s.host s.teardown.2.host := by
  have ended := endJobs_passing passing s.teardownGrace s.jobs s.warnings s.host
  rw [teardown]
  split
  · next done => rwa [done] at ended
  · next failed => rwa [failed] at ended

theorem workDir_teardown (s : Session) : s.teardown.2.workDir = s.workDir := by
  rw [teardown]
  split <;> rfl

/-- The end of a session disturbs nothing that is apart from its sandbox. -/
theorem close_undisturbed (s : Session) (off : s.workDir.StaysOff q) :
    s.host.Undisturbed q s.close := by
  have ended := teardown_passing (Host.passing_undisturbed q) s
  rw [close]
  simp only [workDir_teardown]
  exact ended.trans (Host.removeSandbox_undisturbed off _)

end Session
end ScriptSuite
