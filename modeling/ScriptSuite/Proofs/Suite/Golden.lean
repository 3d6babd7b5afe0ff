import ScriptSuite.Proofs.Command.Comparing
import ScriptSuite.Proofs.Script.Convergence
import ScriptSuite.Proofs.Suite.Preparation

/-!
Which archive files are golden under their own names.

A session that has just been prepared looks for the golden file of a name in three steps: the name
is resolved to a clean path, the path is compared with that of the sandbox, and the steps below it
are joined to the name of an entry. They come back to the entry if and only if the path of the
sandbox makes no steps up and the name is written as its place is (`goldenName?_eq`). Such an entry
is updated by a comparison that fails otherwise (`golden_updates_iff`).
-/

namespace ScriptSuite

/-- The name is written as its place is: no empty segments, and no dots. -/
def ArchiveFile.IsPlain (file : ArchiveFile) : Prop :=
  file.name.toList = Text.joinWith ['/'] (file.place.map EntryName.shown)

instance (file : ArchiveFile) : Decidable file.IsPlain :=
  inferInstanceAs (Decidable (_ = _))

namespace Session

open Handler

variable {h h' : Host} {root : Path} {script : Script} {options : SessionOptions} {s : Session}
  {file : ArchiveFile} {entries : List ArchiveFile}

theorem archiveName_names (names : Place) :
    archiveName (names.map .name) =
      String.ofList (Text.joinWith ['/'] (names.map EntryName.shown)) := by
  rw [archiveName, List.map_map]
  rfl

/-! ### Entries that have been written -/

theorem stays_of_writeArchive (written : writeArchive root entries h = (.ok (), h')) :
    ∀ file ∈ entries, (Path.mk file.name).components.all staysBelow = true := by
  induction entries generalizing h with
  | nil => exact nofun
  | cons first rest ih =>
    obtain ⟨middle, head, tail⟩ := writeArchive_cons_ok written
    refine List.forall_mem_cons.mpr ⟨?_, ih tail⟩
    rw [writeArchiveFile, sandboxPath] at head
    split at head
    · cases head
    · next inside =>
      by_contra outside
      rw [if_neg outside] at inside
      cases inside

/-- An entry with a place of its own has its data at that place. -/
structure Stands (root : Path) (file : ArchiveFile) (h : Host) : Prop where
  stays : (Path.mk file.name).components.all staysBelow = true
  found : h.place (root.join file.name) = .ok (root.landing [] ++ file.place)
  data : ∃ f, h.files.find? (root.landing [] ++ file.place) = some (.file f) ∧ f.data = file.data

theorem stands_of_open (absolute : root.isAbsolute = true)
    (free : h.files.DeviceFree (root.landing []))
    (opened : open? script root options h = .ok s)
    (distinct : (script.files.map ArchiveFile.place).Nodup) (mem : file ∈ script.files) :
    Stands root file s.host := by
  have ne := Path.chars_ne_nil absolute
  have lands := Path.landing_of_isAbsolute absolute [] h.folder
  obtain ⟨middle, written, made⟩ := open?_ok opened
  obtain ⟨-, places⟩ := writeArchive_places ne written
  obtain ⟨noFolder, found⟩ := places file mem
  obtain ⟨files, folders, host⟩ := Host.makeFolders_ok made
  refine ⟨stays_of_writeArchive written file mem, ?_, ?_⟩
  · rw [lands]
    exact (Host.fills_makeFolders made).place noFolder found
  · obtain ⟨before, after, split⟩ := List.append_of_mem mem
    rw [split] at written distinct
    obtain ⟨-, others, -⟩ := List.pairwise_append.mp (List.pairwise_map.mp distinct)
    obtain ⟨last, -⟩ := List.pairwise_cons.mp others
    obtain ⟨f, there, data⟩ := writeArchive_last ne (lands ▸ free) written last
    refine ⟨f, ?_, data⟩
    rw [host, lands]
    exact Node.find?_makeFoldersFrom folders there

/-- Entries with places of their own have names of their own. -/
theorem names_nodup (distinct : (entries.map ArchiveFile.place).Nodup) :
    (entries.map ArchiveFile.name).Nodup := by
  have places : entries.map ArchiveFile.place =
      (entries.map ArchiveFile.name).map fun name => (Path.mk name).landing [] := by
    rw [List.map_map]
    rfl
  exact List.Nodup.of_map _ (places ▸ distinct)

/-! ### Golden files -/

/-- The path of an entry, as a session resolves its name in the sandbox. -/
theorem below?_resolve (absolute : root.isAbsolute = true) (folder : s.folder = root)
    (stays : (Path.mk file.name).components.all staysBelow = true) :
    (s.resolve file.name).below? root =
      if .up ∈ root.components then none else some (file.place.map .name) := by
  have ne := Path.chars_ne_nil absolute
  have joined := Path.isAbsolute_join absolute file.name
  have landing := Path.landing_join ne stays []
  rw [resolve, folder]
  split
  · next up =>
    have below : root.landing [] <+: (root.join file.name).landing [] :=
      landing ▸ List.prefix_append _ _
    have outside := mt (Path.isWithin_clean_iff joined absolute below).mp (not_not_intro up)
    rw [Path.isWithin, Bool.not_eq_true, Option.isSome_eq_false_iff, Option.isNone_iff_eq_none]
      at outside
    exact outside
  · next noUp =>
    rw [Path.below?_eq_some_iff, Path.components_clean joined, landing,
      (Path.landing_of_noUp absolute noUp).1, List.map_append]
    rfl

/-- A name is resolved to a clean path, which leads to the place of the entry. -/
theorem place_resolve (absolute : root.isAbsolute = true) (folder : s.folder = root)
    (own : root.landing [] ≠ []) (noUp : .up ∉ root.components)
    (stands : Stands root file s.host) :
    (s.resolve file.name).wantsFolder = false ∧
      s.host.place (s.resolve file.name) = .ok (root.landing [] ++ file.place) := by
  have ne := Path.chars_ne_nil absolute
  have joined := Path.isAbsolute_join absolute file.name
  have noUp' := mt (Path.up_mem_join_iff ne stands.stays).mp noUp
  have somewhere : (root.join file.name).landing [] ≠ [] := by
    rw [Path.landing_join ne stands.stays]
    exact List.append_ne_nil_of_left_ne_nil own _
  rw [resolve, folder]
  exact ⟨Path.wantsFolder_clean joined somewhere,
    Path.placeFrom_clean joined noUp' somewhere stands.found⟩

end Session

/-! ### Comparisons in update mode -/

namespace Matching

open Handler

variable {s : Session} {a b actual expected : String}

/-- With two texts at hand, the command compares them and looks for a golden file unless the second
is an output. -/
theorem cmp_run_of_texts (textA : s.textOfFile a = .ok actual)
    (textB : s.textOfFile b = .ok expected) :
    (cmp false [a, b]).run s = (compareTexts false ⟨a, actual, b, expected,
      if Session.isOutputName b then none else s.goldenName? b⟩).run s := by
  have reads {name text : String} (known : s.textOfFile name = .ok text) :
      (textOfFile name).run s = .ok text s := by
    unfold textOfFile
    rw [run_get_bind]
    simp only [known]
    rfl
  unfold cmp compareFiles
  rw [run_bind_of_ok (reads textA), run_bind_of_ok (reads textB)]
  simp only [Bool.or_false]
  rfl

theorem compareTexts_failed {c : Comparison} (noGolden : c.golden = none)
    (differ : c.agrees = false) :
    (compareTexts false c).run s = .error (.error (.failed c.message)) s := by
  unfold compareTexts
  rw [run_get_bind]
  simp only [Comparison.refusal?, Comparison.judge, Comparison.updated?, noGolden, differ]
  cases s.canUpdate <;> rfl

/-- An update comes to its end if the golden file can be written. -/
theorem update_run {c : Comparison} {script : Script} {h : Host}
    (written : s.host.write (s.resolve c.expectedName) (Text.bytesOf c.actual) = (.ok (), h)) :
    ∃ t, (update c script).run s = .ok () t ∧ t.hasUpdated = true ∧ t.script = script := by
  let putIn (s : Session) : Session := { s with
    script := script
    updates := s.updates ++ c.golden.toList.map fun entry => ⟨entry, c.actual⟩ }
  have puts : (modify putIn : Handler Unit).run s = .ok () (putIn s) := rfl
  have path : (resolve c.expectedName).run (putIn s) =
      .ok (s.resolve c.expectedName) (putIn s) := rfl
  have wrote : (tryHost hostFault fun h => h.write (s.resolve c.expectedName)
      (Text.bytesOf c.actual)).run (putIn s) = .ok () { putIn s with host := h } :=
    tryHost_of_ok written
  unfold update
  rw [run_bind_of_ok puts, run_bind_of_ok path, run_bind_of_ok wrote]
  exact ⟨_, rfl, rfl, rfl⟩

/-- A comparison of texts that differ updates the golden file if there is one. -/
theorem compareTexts_updates {c : Comparison} {entry : String} {script : Script} {h : Host}
    (golden : c.golden = some entry) (differ : c.agrees = false) (canUpdate : s.canUpdate = true)
    (clear : Separator.occursIn c.actual.toList = false)
    (set : s.script.setFile? entry (Text.bytesOf c.actual) = some script)
    (written : s.host.write (s.resolve c.expectedName) (Text.bytesOf c.actual) = (.ok (), h)) :
    ∃ t, (compareTexts false c).run s = .ok () t ∧ t.hasUpdated = true ∧ t.script = script := by
  have noRefusal : c.refusal? s.canUpdate = none := by
    simp [Comparison.refusal?, golden, clear]
  have judged : c.judge s.script s.canUpdate = .updated script :=
    Comparison.judge_eq_updated_iff.mpr ⟨differ, canUpdate, by
      rw [Comparison.updated?, golden, Option.bind_some, set]⟩
  unfold compareTexts
  rw [run_get_bind]
  simp only [noRefusal, judged]
  exact update_run written

end Matching

namespace Engine

open Session

variable {e : Engine} {name : String} {path : Location} {start : Instant} {h : Host} {s : Session}
  {file : ArchiveFile}

/-- When a session starts, every archive file with a place of its own stands in the sandbox with the
data of the archive. -/
theorem stands_of_prepare (prepared : e.prepare name path start h = .ok s)
    (distinct : (s.script.files.map ArchiveFile.place).Nodup) (mem : file ∈ s.script.files) :
    Stands s.workDir file s.host := by
  obtain ⟨host, sandboxed, script, options, opened⟩ := sandboxed_of_prepare prepared
  have free := Node.deviceFree_of_empty sandboxed.empty
  rw [Path.landing_of_isAbsolute sandboxed.absolute h.folder []] at free
  obtain ⟨scratch, _, same⟩ := open?_eq_start opened
  have own : s.script = script := congrArg Session.script same
  rw [own] at distinct mem
  exact stands_of_open sandboxed.absolute free opened distinct mem

/-- An entry with a place of its own is golden under its own name, or under none. -/
theorem goldenName?_eq (prepared : e.prepare name path start h = .ok s)
    (distinct : (s.script.files.map ArchiveFile.place).Nodup)
    (mem : file ∈ s.script.files) :
    s.goldenName? file.name =
      if .up ∉ s.workDir.components ∧ file.IsPlain then some file.name else none := by
  have absolute := isAbsolute_workDir prepared
  have folder := folder_of_prepare prepared
  have stands := stands_of_prepare prepared distinct mem
  rw [goldenName?]
  simp only [below?_resolve absolute folder stands.stays]
  by_cases up : .up ∈ s.workDir.components
  · rw [if_pos up, if_neg fun both => both.1 up]
  · obtain ⟨f, there, data⟩ := stands.data
    obtain ⟨-, found⟩ := place_resolve absolute folder (landing_workDir_ne_nil prepared) up stands
    have reads : s.host.read (s.resolve file.name) = .ok file.data :=
      Host.read_eq_ok_iff.mpr ⟨_, f, found, there, data⟩
    rw [if_neg up]
    simp only [archiveName_names, reads]
    by_cases plain : file.IsPlain
    · have same : String.ofList (Text.joinWith ['/'] (file.place.map EntryName.shown)) =
          file.name := by
        rw [← plain, String.ofList_toList]
      have found := (Script.file?_eq_some_iff (names_nodup distinct)).mpr ⟨mem, rfl⟩
      rw [if_pos ⟨up, plain⟩, same, found]
      exact if_pos rfl
    · rw [if_neg fun both => plain both.2]
      split
      -- an entry of the plain name would have the same place
      · next other data found reads =>
        obtain ⟨mem', named⟩ := (Script.file?_eq_some_iff (names_nodup distinct)).mp found
        have same : file.place = (Path.mk other.name).landing [] := by
          rw [named]
          exact (Path.landing_joinWith fun _ mem => Path.isName_of_mem_landing mem).symm
        obtain rfl := List.inj_on_of_nodup_map distinct mem mem' same
        refine absurd ?_ plain
        rw [ArchiveFile.IsPlain, named, String.toList_ofList]
      · rfl

/-- The file of an entry can be written again, so that a comparison that has the entry as its golden
one updates it. -/
theorem exists_update_of_golden (prepared : e.prepare name path start h = .ok s)
    (distinct : (s.script.files.map ArchiveFile.place).Nodup) (mem : file ∈ s.script.files)
    (noUp : .up ∉ s.workDir.components) (canUpdate : s.canUpdate = true) {c : Comparison}
    (expectedName : c.expectedName = file.name) (golden : c.golden = some file.name)
    (differ : c.agrees = false) (clear : Separator.occursIn c.actual.toList = false) :
    ∃ t, (Matching.compareTexts false c).run s = .ok () t ∧ t.hasUpdated = true ∧
      s.script.setFile? file.name (Text.bytesOf c.actual) = some t.script := by
  have stands := stands_of_prepare prepared distinct mem
  obtain ⟨f, there, -⟩ := stands.data
  obtain ⟨noFolder, found⟩ := place_resolve (isAbsolute_workDir prepared)
    (folder_of_prepare prepared) (landing_workDir_ne_nil prepared) noUp stands
  obtain ⟨host, written⟩ := Host.exists_write (l := s.resolve file.name) noFolder found there (Text.bytesOf c.actual)
  rw [← expectedName] at written
  have has : s.script.hasFile file.name = true :=
    List.any_eq_true.mpr ⟨file, mem, beq_self_eq_true _⟩
  have set : s.script.setFile? file.name (Text.bytesOf c.actual) = some _ := if_pos has
  obtain ⟨t, ran, updated, script⟩ :=
    Matching.compareTexts_updates golden differ canUpdate clear set written
  exact ⟨t, ran, updated, script ▸ set⟩

/-- An entry with a place of its own is golden under its own name if and only if the folder for
sandboxes is written without steps up and the name as its place is. Then a comparison in update mode
puts another text into the entry instead of failing, unless the name stands for an output. -/
theorem golden_updates_iff (prepared : e.prepare name path start h = .ok s)
    (distinct : (s.script.files.map ArchiveFile.place).Nodup) (mem : file ∈ s.script.files) :
    (s.goldenName? file.name = some file.name ↔
      .up ∉ (h.absolute (e.sandboxParent h)).components ∧ file.IsPlain) ∧
    ∀ x actual expected, s.canUpdate = true → s.textOfFile x = .ok actual →
      s.textOfFile file.name = .ok expected →
      Comparison.normalized actual ≠ Comparison.normalized expected →
      Separator.occursIn actual.toList = false →
      ((∃ t, (Matching.cmp false [x, file.name]).run s = .ok () t ∧ t.hasUpdated = true ∧
          s.script.setFile? file.name (Text.bytesOf actual) = some t.script) ↔
        (.up ∉ (h.absolute (e.sandboxParent h)).components ∧ file.IsPlain) ∧
          isOutputName file.name = false) := by
  have golden := goldenName?_eq prepared distinct mem
  rw [← up_mem_workDir_iff prepared]
  refine ⟨by simp [golden], fun x actual expected canUpdate textX textFile differ clear => ?_⟩
  rw [Matching.cmp_run_of_texts textX textFile, golden]
  have disagrees (g : Option String) :
      Comparison.agrees ⟨x, actual, file.name, expected, g⟩ = false := beq_false_of_ne differ
  by_cases found : (.up ∉ s.workDir.components ∧ file.IsPlain) ∧ isOutputName file.name = false
  · obtain ⟨both, isFile⟩ := found
    obtain ⟨t, ran, updated⟩ := exists_update_of_golden prepared distinct mem both.1 canUpdate
      (c := ⟨x, actual, file.name, expected, some file.name⟩) rfl rfl (disagrees _) clear
    refine iff_of_true ⟨t, ?_, updated⟩ ⟨both, isFile⟩
    rw [isFile, if_pos both]
    exact ran
  · refine iff_of_false ?_ found
    rintro ⟨t, ran, -⟩
    have noGolden : (if isOutputName file.name then none
        else if .up ∉ s.workDir.components ∧ file.IsPlain then some file.name
        else none) = none := by
      split
      · rfl
      · next file => exact if_neg fun both => found ⟨both, Bool.eq_false_iff.mpr file⟩
    rw [noGolden, Matching.compareTexts_failed rfl (disagrees _)] at ran
    cases ran

/-! ### Two ways to write a name -/

/-- A script with a file to compare with, and an entry of some name. -/
def entryNamed (name : String) : String :=
  "-- a --\nnew\n-- " ++ name ++ " --\nold\n"

/-- What is asked of a session about that entry. -/
def entryFacts (name : String) (s : Session) :
    List ArchiveFile × Bool × Option String × Option String × Option String :=
  (s.script.files, s.canUpdate, (s.textOfFile "a").toOption, (s.textOfFile name).toOption,
    s.goldenName? name)

/-- The files of the archive of such a script. -/
def entryFiles (name : String) : List ArchiveFile :=
  [⟨"a", Text.bytesOf "new\n", .lineFeed⟩, ⟨name, Text.bytesOf "old\n", .lineFeed⟩]

theorem golden_updates_iff_nested :
    ∃ s, plainSession? true (entryNamed "d/b") = some s ∧ s.goldenName? "d/b" = some "d/b" ∧
      ∃ t, (Matching.cmp false ["a", "d/b"]).run s = .ok () t ∧ t.hasUpdated = true ∧
        s.script.setFile? "d/b" (Text.bytesOf "new\n") = some t.script := by
  have facts : (plainSession? true (entryNamed "d/b")).map (entryFacts "d/b") =
      some (entryFiles "d/b", true, some "new\n", some "old\n", some "d/b") := by decide +kernel
  obtain ⟨s, session, all⟩ := Option.map_eq_some_iff.mp facts
  simp only [entryFacts, Prod.mk.injEq] at all
  obtain ⟨files, canUpdate, textA, textB, -⟩ := all
  have distinct : (s.script.files.map ArchiveFile.place).Nodup := by
    rw [files]
    decide +kernel
  have mem : ⟨"d/b", Text.bytesOf "old\n", .lineFeed⟩ ∈ s.script.files := by
    simp [files, entryFiles]
  obtain ⟨golden, updates⟩ :=
    golden_updates_iff (prepare_of_plainSession? session) distinct mem
  refine ⟨s, session, golden.mpr (by decide +kernel), ?_⟩
  exact (updates "a" "new\n" "old\n" canUpdate (eq_ok_of_toOption textA)
    (eq_ok_of_toOption textB) (by decide +kernel) (by decide +kernel)).mpr (by decide +kernel)

/-- A dot in front of the name, and the entry is golden under no name, so that the comparison
fails. -/
theorem not_golden_of_dot :
    ∃ s, plainSession? true (entryNamed "./b") = some s ∧ s.script.files = entryFiles "./b" ∧
      (s.script.files.map ArchiveFile.place).Nodup ∧ s.canUpdate = true ∧
      s.textOfFile "a" = .ok "new\n" ∧ s.textOfFile "./b" = .ok "old\n" ∧
      s.goldenName? "./b" = none ∧
      ∀ t, (Matching.cmp false ["a", "./b"]).run s ≠ .ok () t := by
  have facts : (plainSession? true (entryNamed "./b")).map (entryFacts "./b") =
      some (entryFiles "./b", true, some "new\n", some "old\n", none) := by decide +kernel
  obtain ⟨s, session, all⟩ := Option.map_eq_some_iff.mp facts
  simp only [entryFacts, Prod.mk.injEq] at all
  obtain ⟨files, canUpdate, textA, textB, golden⟩ := all
  have textA := eq_ok_of_toOption textA
  have textB := eq_ok_of_toOption textB
  refine ⟨s, session, files, ?_, canUpdate, textA, textB, golden, fun t ran => ?_⟩
  · rw [files]
    decide +kernel
  · rw [Matching.cmp_run_of_texts textA textB, golden, ite_self,
      Matching.compareTexts_failed rfl (by decide +kernel)] at ran
    cases ran

end Engine
end ScriptSuite
