import ScriptSuite.Proofs.Command.Orderly
import ScriptSuite.Proofs.Host.Copying
import ScriptSuite.Proofs.Session.Filling

/-!
What `cp` does to files.

A run of `cp` that ends well has made one copy for each source, in order (`cp_ok`). Sources of
different names do not get into each other's way, since a target ends with the name of its source
(`independent_of_names`). So each target has what its source held, and nothing else has changed,
if and only if no source with data is its own target, and none is copied to a device that reads
otherwise (`cp_copies_iff`).
-/

namespace ScriptSuite.Files

open Handler Host

variable {s t : Session} {destination : String} {sources : List String}

/-- Where a source is copied to. -/
def targetOf (s : Session) (destination source : String) : Path :=
  copyTarget source (s.resolve destination) (s.host.isFolder (s.resolve destination))

/-- The target of a source is the file that `a` denotes. -/
def Overwrites (s : Session) (destination source a : String) : Prop :=
  (targetOf s destination source).landing s.host.folder = (s.resolve a).landing s.host.folder

/-- What `cp` is for: each target has what its source held, each source that is not the target of
another still has it, and all other files are as before. -/
structure Copied (sources : List String) (destination : String) (s t : Session) : Prop where
  targets : ∀ a ∈ sources, ∃ data, s.host.read (s.resolve a) = .ok data ∧
    t.host.read (targetOf s destination a) = .ok data
  kept : ∀ a ∈ sources, (∀ b ∈ sources, b ≠ a → ¬ Overwrites s destination b a) →
    t.host.read (s.resolve a) = s.host.read (s.resolve a)
  others : ∀ q f, (∀ a ∈ sources, q ≠ (targetOf s destination a).landing s.host.folder) →
    (t.host.files.find? q = some (.file f) ↔ s.host.files.find? q = some (.file f))

/-! ### The copies of a run -/

/-- A source that is a file is copied on the host, and nothing else of the session changes. -/
theorem copyOne_ok {target : Path} {isFolder : Bool} {source : String}
    (file : Session.isOutputName source = false)
    (ran : (copyOne destination target isFolder source).run s = .ok () t) :
    ∃ h, s.host.copy (s.resolve source) (copyTarget source target isFolder) = (.ok (), h) ∧
      t = { s with host := h } := by
  have resolved : (resolve source).run s = .ok (s.resolve source) s := rfl
  unfold copyOne at ran
  simp only [file, Bool.false_eq_true, if_false] at ran
  rw [run_bind_of_ok resolved] at ran
  obtain ⟨h, copied, left⟩ := tryHost_eq_ok ran
  exact ⟨h, copied, left⟩

/-- Copying source by source is one run of copies on the host, in the order of the arguments. -/
theorem each_copyOne_ok {target : Path} {isFolder : Bool}
    (files : ∀ a ∈ sources, Session.isOutputName a = false)
    (ran : (each (copyOne destination target isFolder) sources).run s = .ok () t) :
    ∃ h, t = { s with host := h } ∧
      Copies s.host (sources.map fun a => (s.resolve a, copyTarget a target isFolder)) h := by
  induction sources generalizing s with
  | nil =>
    cases ran
    exact ⟨_, rfl, .nil⟩
  | cons a rest ih =>
    obtain ⟨file, files⟩ := List.forall_mem_cons.mp files
    rw [each] at ran
    cases first : (copyOne destination target isFolder a).run s with
    | error e u =>
      rw [run_bind_of_error first] at ran
      cases ran
    | ok _ u =>
      rw [run_bind_of_ok first] at ran
      obtain ⟨middle, copied, rfl⟩ := copyOne_ok file first
      obtain ⟨h, rfl, copies⟩ := ih files ran
      exact ⟨h, rfl, .cons copied copies⟩

/-- A run of `cp` that ends well copies all sources, and more than one only into a folder. -/
theorem cp_ok {negated : Bool} (files : ∀ a ∈ sources, Session.isOutputName a = false)
    (ran : (cp negated (sources ++ [destination])).run s = .ok () t) :
    (s.host.isFolder (s.resolve destination) = true ∨ ∃ a, sources = [a]) ∧
      ∃ h, t = { s with host := h } ∧
        Copies s.host (sources.map fun a => (s.resolve a, targetOf s destination a)) h := by
  have resolved : (resolve destination).run s = .ok (s.resolve destination) s := rfl
  have looked : (ofHost fun h => h.isFolder (s.resolve destination)).run s =
      .ok (s.host.isFolder (s.resolve destination)) s := rfl
  cases sources with
  | nil => cases ran
  | cons a more =>
    have last : (a :: more ++ [destination]).getLast? = some destination := List.getLast?_concat
    have front : (a :: more ++ [destination]).dropLast = a :: more := List.dropLast_concat
    unfold cp at ran
    simp only [last, front] at ran
    rw [run_bind_of_ok resolved, run_bind_of_ok looked] at ran
    split at ran
    · cases ran
    · next room =>
      refine ⟨?_, each_copyOne_ok files ran⟩
      cases more with
      | nil => exact .inr ⟨a, rfl⟩
      | cons b more => exact .inl (by simpa using room)

/-! ### Sources of different names -/

/-- A target in a folder that can be written ends with the name of its source. -/
theorem exists_name_of_copyTarget {target : Path} {source : String}
    (noFolder : (copyTarget source target true).wantsFolder = false)
    (named : ∃ name, (copyTarget source target true).fileName? = some name) :
    ∃ name, (Path.mk source).fileName? = some name ∧
      (copyTarget source target true).fileName? = some name := by
  rw [copyTarget, if_pos rfl] at noFolder named ⊢
  cases own : (Path.mk source).fileName? with
  | some name =>
    have isName := Path.isName_of_fileName? own
    exact ⟨name, rfl, Path.fileName?_join _ (Path.fileName?_ofList isName)⟩
  | none =>
    obtain ⟨name, named⟩ := named
    simp only [own] at noFolder named
    cases own.symm.trans (Path.fileName?_of_join noFolder named)

/-- Copies of sources with different names do not get into each other's way. -/
theorem independent_of_names {h : Host}
    (names : (sources.filterMap fun a => (Path.mk a).fileName?).Nodup)
    (room : s.host.isFolder (s.resolve destination) = true ∨ ∃ a, sources = [a])
    (copies : Copies s.host (sources.map fun a => (s.resolve a, targetOf s destination a)) h) :
    (sources.map fun a => (s.resolve a, targetOf s destination a)).Pairwise
      (Independent s.host.folder) := by
  rcases room with isFolder | ⟨a, rfl⟩
  · rw [List.pairwise_map]
    refine (List.pairwise_filterMap.mp names).imp_of_mem ?_
    intro a b mem mem' differ
    have written := copies.exists_fileName
    simp only [List.forall_mem_map, targetOf, isFolder] at written
    obtain ⟨name, named, ends⟩ := exists_name_of_copyTarget (written a mem).1 (written a mem).2
    obtain ⟨name', named', ends'⟩ :=
      exists_name_of_copyTarget (written b mem').1 (written b mem').2
    have other : name ≠ name' := differ name named name' named'
    have reads : (s.resolve b).fileName? = some name' :=
      Path.fileName?_clean (Path.fileName?_join s.folder named')
    simp only [Independent, targetOf, isFolder]
    constructor
    · intro same
      have last := Path.getLast?_landing ends s.host.folder
      rw [same, Path.getLast?_landing reads] at last
      exact other (EntryName.text.inj (Option.some.inj last)).symm
    · intro same
      have last := Path.getLast?_landing ends s.host.folder
      rw [same, Path.getLast?_landing ends'] at last
      exact other (EntryName.text.inj (Option.some.inj last)).symm
  · exact List.pairwise_singleton _ _

section

variable {a : String} {h : Host} {changed : Place → Prop} {f g : File}

/-- A plain file is never its own target if that is a device. -/
theorem not_overwrites_of_device (denotes : s.host.node (s.resolve a) = .ok (.file f))
    (plain : f.isDevice = false)
    (target : s.host.node (targetOf s destination a) = .ok (.file g)) (device : g.isDevice = true) :
    ¬ Overwrites s destination a a := by
  intro own
  obtain ⟨-, -, file⟩ := node_eq_file_iff.mp denotes
  obtain ⟨-, -, there⟩ := node_eq_file_iff.mp target
  rw [own] at there
  cases file.symm.trans there
  rw [plain] at device
  cases device

/-- A file that is copied onto itself is empty afterwards. -/
theorem read_of_overwrites (same : s.host.SameBut changed h)
    (delivers : Delivers (s.resolve a) (targetOf s destination a) s.host h)
    (own : Overwrites s destination a a) : h.read (s.resolve a) = .ok [] := by
  cases delivers with
  | device denotes plain old keeps _ =>
    exact absurd own (not_overwrites_of_device denotes plain old keeps)
  | file denotes _ _ holds data =>
    rw [if_pos own.symm] at data
    rw [read_of_node (same.node_of_landing denotes own holds), data]

/-- A target has what its source held if and only if the source is not emptied, and the target is
no device that reads otherwise. -/
theorem read_targetOf_iff {data : Bytes}
    (delivers : Delivers (s.resolve a) (targetOf s destination a) s.host h)
    (reads : s.host.read (s.resolve a) = .ok data) :
    h.read (targetOf s destination a) = .ok data ↔
      (Overwrites s destination a a → data = []) ∧
        ∀ g, s.host.node (targetOf s destination a) = .ok (.file g) → g.isDevice = true →
          g.data = data := by
  cases delivers with
  | device denotes plain old keeps stays =>
    rw [read_of_node stays, Except.ok.injEq]
    constructor
    · intro alike
      refine ⟨fun own => absurd own (not_overwrites_of_device denotes plain old keeps), ?_⟩
      intro g target _
      cases old.symm.trans target
      exact alike
    · intro spared
      exact spared.2 _ old keeps
  | file denotes _ regular holds stored =>
    obtain rfl := Except.ok.inj ((read_of_node denotes).symm.trans reads)
    rw [read_of_node holds, Except.ok.injEq, stored]
    constructor
    · intro alike
      constructor
      · intro own
        rw [if_pos own.symm] at alike
        exact alike.symm
      · intro g target device
        rw [regular g target] at device
        cases device
    · intro spared
      by_cases own : Overwrites s destination a a
      · rw [if_pos own.symm, spared.1 own]
      · exact if_neg (Ne.symm own)

end

/-- If `cp` ends well, sources of different names have been copied, and nothing else has changed,
if and only if no source with data is its own target, and none is copied to a device that reads
otherwise. A source that is its own target has been emptied. -/
theorem cp_copies_iff {negated : Bool} (files : ∀ a ∈ sources, Session.isOutputName a = false)
    (names : (sources.filterMap fun a => (Path.mk a).fileName?).Nodup)
    (ran : (cp negated (sources ++ [destination])).run s = .ok () t) :
    (∀ a ∈ sources, Overwrites s destination a a → t.host.read (s.resolve a) = .ok []) ∧
    (Copied sources destination s t ↔
      ∀ a ∈ sources, ∀ data, s.host.read (s.resolve a) = .ok data →
        (Overwrites s destination a a → data = []) ∧
        ∀ g, s.host.node (targetOf s destination a) = .ok (.file g) → g.isDevice = true →
          g.data = data) := by
  obtain ⟨room, h, rfl, copies⟩ := cp_ok files ran
  have same : s.host.SameBut
      (fun q => ∃ a ∈ sources, q = (targetOf s destination a).landing s.host.folder) h := by
    refine copies.sameBut.mono ?_
    rintro q ⟨pair, listed, here⟩
    obtain ⟨a, mem, rfl⟩ := List.mem_map.mp listed
    exact ⟨a, mem, by rw [here]⟩
  have delivers := copies.delivers (independent_of_names names room copies)
  simp only [List.forall_mem_map] at delivers
  have emptied : ∀ a ∈ sources, Overwrites s destination a a → h.read (s.resolve a) = .ok [] :=
    fun a mem own => read_of_overwrites same (delivers a mem) own
  refine ⟨emptied, ?_, ?_⟩
  · intro copied a mem data reads
    obtain ⟨data', reads', gets⟩ := copied.targets a mem
    cases reads.symm.trans reads'
    exact (read_targetOf_iff (delivers a mem) reads).mp gets
  · intro spared
    constructor
    · intro a mem
      obtain ⟨f, denotes⟩ := (delivers a mem).exists_source
      have reads := read_of_node denotes
      exact ⟨f.data, reads, (read_targetOf_iff (delivers a mem) reads).mpr (spared a mem _ reads)⟩
    · intro a mem apart
      obtain ⟨f, denotes⟩ := (delivers a mem).exists_source
      by_cases own : Overwrites s destination a a
      · have reads := read_of_node denotes
        rw [emptied a mem own, reads, (spared a mem _ reads).1 own]
      · have kept : h.node (s.resolve a) = .ok (.file f) := by
          refine (same.node_iff ?_).mpr denotes
          rintro ⟨b, mem', here⟩
          by_cases self : b = a
          · subst self
            exact own here.symm
          · exact apart b mem' self here.symm
        rw [read_of_node kept, read_of_node denotes]
    · intro q f elsewhere
      refine same.files.files q f ?_
      rintro ⟨a, mem, here⟩
      exact elsewhere a mem here

/-- What a file holds after a handler, if that comes to its end. -/
def readAfter? (f : Handler Unit) (s : Session) (p : Path) : Option (Except HostError Bytes) :=
  match f.run s with
  | .ok _ t => some (t.host.read p)
  | .error _ _ => none

theorem readAfter?_eq_some_iff {f : Handler Unit} {p : Path} {result : Except HostError Bytes} :
    readAfter? f s p = some result ↔ ∃ t, f.run s = .ok () t ∧ t.host.read p = result := by
  rw [readAfter?]
  cases ran : f.run s with
  | ok _ t => simp
  | error e t => simp

/-- Two files and a folder. -/
def filesAndFolder : Listing :=
  .file ['a'] ⟨[0x78], 0o644, false⟩
    (.file ['b'] ⟨[0x79], 0o644, false⟩ (.folder ['d'] 0o755 .empty .empty))

theorem cp_copies_iff_folder :
    ∃ t, (cp false ["a", "./b", "d"]).run (Session.ofFiles filesAndFolder) = .ok () t ∧
      t.host.read (Path.mk "/d/b") = .ok [0x79] ∧
      Copied ["a", "./b"] "d" (Session.ofFiles filesAndFolder) t := by
  have reads : readAfter? (cp false ["a", "./b", "d"]) (Session.ofFiles filesAndFolder) ⟨"/d/b"⟩ =
      some (.ok [0x79]) := by
    decide +kernel
  obtain ⟨t, ran, copy⟩ := readAfter?_eq_some_iff.mp reads
  have files : ∀ a ∈ ["a", "./b"], Session.isOutputName a = false := by decide
  have names : (["a", "./b"].filterMap fun a => (Path.mk a).fileName?).Nodup := by decide
  have others : ∀ a ∈ ["a", "./b"],
      (targetOf (Session.ofFiles filesAndFolder) "d" a).landing [] ≠
        ((Session.ofFiles filesAndFolder).resolve a).landing [] := by
    decide +kernel
  have free : ∀ a ∈ ["a", "./b"], (Session.ofFiles filesAndFolder).host.node
      (targetOf (Session.ofFiles filesAndFolder) "d" a) = .error (.refused .noEntry) := by
    decide +kernel
  refine ⟨t, ran, copy, (cp_copies_iff files names ran).2.mpr ?_⟩
  intro a mem data _
  refine ⟨fun own => absurd own (others a mem), ?_⟩
  intro g target
  rw [free a mem] at target
  cases target

/-- A file. -/
def oneFile : Listing :=
  .file ['a'] ⟨[0x78], 0o644, false⟩ .empty

/-- A file that is copied to the folder that it is in is emptied. -/
theorem not_copied_onto_itself :
    ∃ t, (cp false ["a", "."]).run (Session.ofFiles oneFile) = .ok () t ∧
      t.host.read ((Session.ofFiles oneFile).resolve "a") = .ok [] ∧
      ¬ Copied ["a"] "." (Session.ofFiles oneFile) t := by
  have emptied : readAfter? (cp false ["a", "."]) (Session.ofFiles oneFile)
      ((Session.ofFiles oneFile).resolve "a") = some (.ok []) := by
    decide +kernel
  have reads : (Session.ofFiles oneFile).host.read ((Session.ofFiles oneFile).resolve "a") =
      .ok [0x78] := by
    decide +kernel
  obtain ⟨t, ran, empty⟩ := readAfter?_eq_some_iff.mp emptied
  refine ⟨t, ran, empty, ?_⟩
  intro copied
  have kept := copied.kept "a" List.mem_cons_self fun b mem other =>
    absurd (List.mem_singleton.mp mem) other
  rw [empty, reads] at kept
  cases kept

end ScriptSuite.Files
