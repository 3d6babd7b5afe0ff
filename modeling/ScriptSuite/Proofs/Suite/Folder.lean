import ScriptSuite.Proofs.Suite.Preparation
import ScriptSuite.Proofs.Suite.Protection

/-!
Where the folder of a session can be.

Of the built-in commands `cd` alone enters another folder, and none that is not of the sandbox, so
that the folder of a session never leaves it (`folder_stays_inside`). The folder to enter is
compared by its clean path, but the sandbox is taken as it is written. So `cd` accepts the folders
of the sandbox if the path of the sandbox makes no steps up, and none otherwise
(`cd_accepts_iff`).
-/

namespace ScriptSuite

open Handler

/-! ### What `cd` does -/

namespace Files

variable {negated : Bool} {arguments : List String} {s t : Session}

/-- The command succeeds if and only if its one argument denotes a folder within the sandbox, and
then it enters that folder and does nothing else. -/
theorem cd_eq_ok_iff :
    (cd negated arguments).run s = .ok () t ↔
      ∃ dir, arguments = [dir] ∧ (s.resolve dir).isWithin s.workDir = true ∧
        s.host.isFolder (s.resolve dir) = true ∧ t = s.enter (s.resolve dir) := by
  constructor
  · intro ran
    unfold cd at ran
    split at ran
    · next dir =>
      rw [run_get_bind] at ran
      simp only at ran
      split at ran
      · cases ran
      · next inside =>
        split at ran
        · cases ran
        · next folder =>
          cases ran
          exact ⟨dir, rfl, by simpa using inside, by simpa using folder, rfl⟩
    · cases ran
  · rintro ⟨dir, rfl, inside, folder, rfl⟩
    rw [cd, run_get_bind]
    simp only [inside, folder]
    rfl

/-- `cd` changes nothing when it fails. -/
theorem cd_error {interrupt : Interrupt} (ran : (cd negated arguments).run s = .error interrupt t) :
    t = s := by
  unfold cd at ran
  split at ran
  · rw [run_get_bind] at ran
    simp only at ran
    split at ran
    · cases ran
      rfl
    · split at ran
      · cases ran
        rfl
      · cases ran
  · cases ran
    rfl

end Files

/-! ### Sessions that stay in their sandbox -/

namespace Session

/-- The sandbox stays, and the folder of the session in it. -/
structure Confined (s t : Session) : Prop where
  workDir : t.workDir = s.workDir
  inside : s.folder.isWithin s.workDir = true → t.folder.isWithin t.workDir = true

variable {s t r : Session}

theorem Confined.of_eq (workDir : t.workDir = s.workDir) (folder : t.folder = s.folder) :
    Confined s t :=
  ⟨workDir, fun inside => by rwa [workDir, folder]⟩

theorem Confined.trans (h : Confined s t) (h' : Confined t r) : Confined s r :=
  ⟨h'.workDir.trans h.workDir, fun inside => h'.inside (h.inside inside)⟩

instance : IsPreorder Session Confined where
  refl _ := .of_eq rfl rfl
  trans _ _ _ := Confined.trans

instance : StreamTolerant Confined where
  host _ := .of_eq rfl rfl
  log _ _ := .of_eq rfl rfl
  environment _ _ := .of_eq rfl rfl
  output _ _ _ := .of_eq rfl rfl
  stdin _ _ := .of_eq rfl rfl
  unique _ _ := .of_eq rfl rfl
  update _ _ _ := .of_eq rfl rfl
  updated completes := by
    cases completes
    exact .of_eq rfl rfl

theorem Confined.jobTolerant : JobTolerant Confined where
  jobs _ _ := .of_eq rfl rfl
  deferred _ := .of_eq rfl rfl

theorem confined_enter {folder : Path} (inside : folder.isWithin s.workDir = true) :
    Confined s (s.enter folder) :=
  ⟨rfl, fun _ => inside⟩

/-- All built-in commands keep a session in its sandbox. -/
theorem builtin_confined (language : PatternLanguage) {entry : String × Command}
    (mem : entry ∈ (Registry.builtinWith language).entries) (negated : Bool)
    (arguments : List String) : Handler.Keeps Confined (entry.2.run negated arguments) :=
  (Registry.builtin_orderly language entry mem (fun _ _ _ => confined_enter)
    (fun _ => Confined.jobTolerant) (fun _ => inferInstance) negated arguments).keeps

/-- An engine that knows no other commands does so, too. -/
theorem step_confined {language : PatternLanguage} {params : RunParams} {e : Engine}
    (made : Engine.make language params = .ok e) (builtin : params.commands = [])
    (inst : Instruction) (s : Session) : Confined s (e.step inst s).2 := by
  cases called : e.call? s inst with
  | none =>
    obtain ⟨log, same⟩ := Engine.step_of_no_call called
    rw [same, Engine.isOverdue_host]
    exact .of_eq rfl rfl
  | some call =>
    obtain ⟨log, n, session⟩ := Engine.session_of_call called
    have known := Registry.mem_of_command? (Engine.command_of_call called)
    rw [Engine.registry_of_make made, builtin, List.append_nil] at known
    have before : Confined s call.session := by
      rw [session, Engine.isOverdue_host]
      exact .of_eq rfl rfl
    have answered : Confined call.session (sessionAfter (call.answer inst)) :=
      (builtin_confined language known _ call.arguments call.session).after
    obtain ⟨log', same⟩ := Engine.endOf_log inst.expectation (!s.hasStarted) (call.answer inst)
    rw [Engine.step_of_call called, same]
    exact (before.trans answered).trans (.of_eq rfl rfl)

/-! ### Reachable sessions -/

/-- What happens to a session while there are no commands but the built-in ones: one of them is
called, whatever its arguments, or an instruction is run. -/
inductive Turn (language : PatternLanguage) : Session → Session → Prop where
  | command (s : Session) {entry : String × Command} :
      entry ∈ (Registry.builtinWith language).entries → ∀ negated arguments,
      Turn language s (sessionAfter ((entry.2.run negated arguments).run s))
  | step (s : Session) {params : RunParams} {e : Engine} :
      Engine.make language params = .ok e → params.commands = [] → ∀ inst,
      Turn language s (e.step inst s).2

/-- A session that turns lead to. -/
def Visits (language : PatternLanguage) : Session → Session → Prop :=
  Relation.ReflTransGen (Turn language)

variable {language : PatternLanguage}

/-- No turn of a session leads its folder out of the sandbox. -/
theorem Turn.confined (h : Turn language s t) : Confined s t := by
  cases h with
  | command mem negated arguments =>
    exact (builtin_confined language mem negated arguments s).after
  | step made builtin inst => exact step_confined made builtin inst s

theorem Visits.confined (h : Visits language s t) : Confined s t := by
  induction h with
  | refl => exact .of_eq rfl rfl
  | tail _ turn ih => exact ih.trans turn.confined

/-- Whatever commands are run, the folder of a session stays in its sandbox. `cd` makes the folder
that it enters the value of `PWD`, and changes nothing when it fails. -/
theorem folder_stays_inside {script : Script} {root : Path} {options : SessionOptions} {h : Host}
    (opened : open? script root options h = .ok s) (visits : Visits language s t) :
    t.workDir = root ∧ root.components <+: t.folder.components ∧
      ∀ negated arguments,
        (∀ u, (Files.cd negated arguments).run t = .ok () u →
          root.components <+: u.folder.components ∧
          u.environment.value? folderVariable = some u.folder.text ∧
          ∃ dir, arguments = [dir] ∧ u = t.enter (t.resolve dir)) ∧
        (∀ interrupt u, (Files.cd negated arguments).run t = .error interrupt u → u = t) := by
  obtain ⟨scratch, host, rfl⟩ := open?_eq_start opened
  have confined := visits.confined
  have inside := confined.inside (Path.isWithin_iff.mpr List.prefix_rfl)
  have workDir : t.workDir = root := confined.workDir
  rw [workDir, Path.isWithin_iff] at inside
  refine ⟨workDir, inside, fun negated arguments => ⟨?_, ?_⟩⟩
  · intro u ran
    obtain ⟨dir, rfl, inside, -, rfl⟩ := Files.cd_eq_ok_iff.mp ran
    rw [workDir, Path.isWithin_iff] at inside
    refine ⟨inside, ?_, dir, rfl, rfl⟩
    rw [enter, setVariable, Environment.value?_put, if_pos rfl]
  · intro interrupt u ran
    exact Files.cd_error ran

/-! ### A folder that has been entered -/

/-- A script with a folder in its archive. -/
def withFolder : Script :=
  ⟨[], [⟨"d/x", [], .lineFeed⟩], ""⟩

theorem folder_stays_inside_entered :
    ∃ s t, open? withFolder bareFolder bareOptions bareHost = .ok s ∧
      Visits Engine.noPatterns s t ∧ t.folder = ⟨"/w/d"⟩ ∧ t.workDir = bareFolder ∧
      bareFolder.components <+: t.folder.components := by
  have enters : (open? withFolder bareFolder bareOptions bareHost).toOption.map
      (fun s => (sessionAfter ((Files.cd false ["d"]).run s)).folder) = some ⟨"/w/d"⟩ := by
    decide +kernel
  obtain ⟨s, found, entered⟩ := Option.map_eq_some_iff.mp enters
  have opened := Engine.eq_ok_of_toOption found
  have known : ("cd", (⟨false, Files.cd⟩ : Command)) ∈
      (Registry.builtinWith Engine.noPatterns).entries := by simp [Registry.builtinWith]
  have turn := Turn.command s known false ["d"]
  obtain ⟨workDir, inside, -⟩ := folder_stays_inside opened (.single turn)
  exact ⟨s, _, opened, .single turn, entered, workDir, inside⟩

/-! ### Folders that `cd` accepts -/

/-- A folder of the sandbox, as seen from wherever commands have gone, is entered if the folder for
sandboxes is written without steps up, and refused otherwise. -/
theorem cd_accepts_iff {e : Engine} {name dir : String} {path : Location} {start : Instant} {h : Host}
    (prepared : e.prepare name path start h = .ok s) (visits : Visits language s t)
    (folder : t.host.isFolder (t.resolve dir) = true)
    (inside : s.workDir.landing [] <+: (t.resolve dir).landing []) (negated : Bool) :
    (∃ u, (Files.cd negated [dir]).run t = .ok () u ∧ u.folder = t.resolve dir) ↔
      .up ∉ (h.absolute (e.sandboxParent h)).components := by
  obtain ⟨host, sandboxed, script, options, opened⟩ := Engine.sandboxed_of_prepare prepared
  obtain ⟨workDir, ⟨below, reached⟩, -⟩ := folder_stays_inside opened visits
  obtain ⟨steps, starts⟩ := Path.exists_components_of_isAbsolute sandboxed.absolute
  have absolute : (t.folder.join dir).isAbsolute = true := by
    rw [starts, List.cons_append] at reached
    exact Path.isAbsolute_join (Path.isAbsolute_of_components reached.symm) dir
  rw [resolve, Path.landing_clean absolute] at inside
  rw [← Engine.up_mem_workDir_iff prepared,
    ← Path.isWithin_clean_iff absolute sandboxed.absolute inside]
  constructor
  · rintro ⟨u, ran, -⟩
    obtain ⟨_, ⟨⟩, within, -⟩ := Files.cd_eq_ok_iff.mp ran
    rwa [workDir] at within
  · intro within
    refine ⟨_, Files.cd_eq_ok_iff.mpr ⟨dir, rfl, ?_, folder, rfl⟩, rfl⟩
    rwa [workDir]

/-- The session of a script without instructions, with its sandbox in a given folder. -/
def sessionIn? (parent : String) : Option Session :=
  ((Engine.mk { Engine.plainParams false with workRoot := some ⟨parent⟩ }
    (Registry.builtinWith Engine.noPatterns)).prepare "t" Engine.plainPath default
      (Engine.plainHost "-- d/x --\n")).toOption

/-- The folder for sandboxes may be relative, and need not be clean. -/
theorem cd_accepts_iff_relative :
    ∃ s, sessionIn? "./tmp//." = some s ∧
      ∃ u, (Files.cd false ["d"]).run s = .ok () u ∧ u.folder = s.resolve "d" := by
  have facts : (sessionIn? "./tmp//.").map (fun s => (s.host.isFolder (s.resolve "d"),
      decide (s.workDir.landing [] <+: (s.resolve "d").landing []))) = some (true, true) := by
    decide +kernel
  obtain ⟨s, session, both⟩ := Option.map_eq_some_iff.mp facts
  obtain ⟨folder, inside⟩ := Prod.mk.inj both
  have visits : Visits Engine.noPatterns s s := .refl
  refine ⟨s, session, (cd_accepts_iff (Engine.eq_ok_of_toOption session) visits folder
    (of_decide_eq_true inside) false).mpr ?_⟩
  decide +kernel

/-- Where it is written with a step up, not even the sandbox itself is accepted. -/
theorem cd_refuses_own_sandbox :
    ∃ s, sessionIn? "/tmp/../tmp" = some s ∧ s.host.isFolder (s.resolve ".") = true ∧
      s.workDir.landing [] <+: (s.resolve ".").landing [] ∧
      ∀ u, (Files.cd false ["."]).run s ≠ .ok () u := by
  have facts : (sessionIn? "/tmp/../tmp").map (fun s => (s.host.isFolder (s.resolve "."),
      decide (s.workDir.landing [] <+: (s.resolve ".").landing []),
      (s.resolve ".").isWithin s.workDir)) = some (true, true, false) := by
    decide +kernel
  obtain ⟨s, session, all⟩ := Option.map_eq_some_iff.mp facts
  obtain ⟨folder, both⟩ := Prod.mk.inj all
  obtain ⟨inside, outside⟩ := Prod.mk.inj both
  refine ⟨s, session, folder, of_decide_eq_true inside, fun u ran => ?_⟩
  obtain ⟨_, ⟨⟩, within, -⟩ := Files.cd_eq_ok_iff.mp ran
  exact Bool.false_ne_true (outside.symm.trans within)

end Session
end ScriptSuite
