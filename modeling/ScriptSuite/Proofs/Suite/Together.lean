import Mathlib.Data.List.Forall2
import Mathlib.Data.List.Infix
import Mathlib.Data.List.Permutation
import ScriptSuite.Proofs.Path.Order
import ScriptSuite.Proofs.Suite.Course
import ScriptSuite.Proofs.Suite.Finish
import ScriptSuite.Proofs.Suite.Gathering
import ScriptSuite.Proofs.Text.Trimming
import ScriptSuite.Suite.Basic

/-!
Scripts that run together.

If the run of each script ends as its own file says (`Suite.OwnFile`), it does not matter whether
the scripts of a suite run in turn or together, and in which order they end then. Either way there
is one result for each script that is chosen, in the order of their locations, and that of a run that
breaks off is a failure (`Suite.Answers`); the suite fails if one of these results does
(`Suite.runScripts_of_ownFile`).
-/

namespace ScriptSuite

/-! ### Engines -/

namespace Engine

/-- The engine that takes its scripts in turn, or together. -/
def withSerial (e : Engine) (isSerial : Bool) : Engine :=
  ⟨{ e.params with isSerial := isSerial }, e.registry⟩

theorem runInstructions_withSerial (e : Engine) (isSerial : Bool) (is : List Instruction)
    (s : Session) : (e.withSerial isSerial).runInstructions is s = e.runInstructions is s := by
  induction is generalizing s with
  | nil => rfl
  | cons inst rest ih =>
    have first : (e.withSerial isSerial).step inst s = e.step inst s := rfl
    rw [runInstructions, runInstructions, first]
    split
    · exact ih _
    all_goals rfl

/-- The run of a script is the same in a suite of either kind. -/
theorem run_withSerial (e : Engine) (isSerial : Bool) : (e.withSerial isSerial).run = e.run := by
  have ran : (e.withSerial isSerial).execute = e.execute := by
    funext s
    simp only [execute, runInstructions_withSerial]
    rfl
  have session : (e.withSerial isSerial).runSession = e.runSession := by
    funext name path s
    rw [runSession, runSession, ran]
  funext name path h
  rw [run, run]
  simp only [runUntimed, session]
  rfl

theorem make_withSerial {language : PatternLanguage} {params : RunParams} {e : Engine}
    (made : make language params = .ok e) (isSerial : Bool) :
    make language { params with isSerial := isSerial } = .ok (e.withSerial isSerial) := by
  rw [make] at made ⊢
  split at made
  · next registry added =>
    cases made
    rw [added]
    rfl
  · cases made

end Engine

/-- How a run ends that gives the result, or breaks off if there is none. -/
def RunEnd.ofResult? : Option ScriptResult → RunEnd
  | some result => .finished result
  | none => .panicked

namespace Suite

/-! ### Scripts that are chosen -/

/-- The scripts whose names hold the text that is asked for, with their names. -/
def chosen (params : RunParams) (h : Host) (paths : List Location) : List Task :=
  (paths.map fun path => (path.scriptName (params.root h), path)).filter fun task =>
    params.filter.all fun part => decide (part.toList <:+: task.1.toList)

theorem tasks_eq {params : RunParams} {h : Host} {paths : List Location}
    (found : findScripts h params.target = .ok paths) :
    tasks params h = .ok (chosen params h paths) := by
  rw [tasks, found, chosen]
  cases params.filter with
  | none => simp
  | some part =>
    simp only [Option.all_some]
    congr 2
    funext task
    rw [Bool.eq_iff_iff, Text.occursIn_iff, decide_eq_true_iff]

/-- The scripts of a suite are found in the order of their locations. -/
theorem pairwise_findScripts {h : Host} {p : Path} {paths : List Location}
    (found : findScripts h p = .ok paths) : paths.Pairwise fun p q => p.le q = true := by
  rw [findScripts] at found
  split at found
  · cases found
  · cases found
    exact Location.pairwise_mergeSort _
  · split at found
    · cases found
    · cases found
      exact List.pairwise_singleton _ _

/-! ### Scripts that are run -/

/-- What becomes of a script, given what is read of its file: a result, or none if its run breaks
off. -/
abbrev Report := Task → Except HostError Bytes → Option ScriptResult

/-- Whichever of the other scripts have run before, the run of a script ends as its own file says. -/
def OwnFile (engine : Engine) (report : Report) (tasks : List Task) (h : Host) : Prop :=
  ∀ before task after, (before ++ task :: after).Perm tasks →
    (engine.run task.1 task.2
      (Gathering.inTurn (fun other => engine.run other.1 other.2) before h).2).1 =
        .ofResult? (report task (h.read task.2))

/-- The result for a script has its name and its path. It is what the run of the script gives, and
a failure if that breaks off. -/
inductive Answers (report : Report) (h : Host) (task : Task) : ScriptResult → Prop where
  | finished {r : ScriptResult} : report task (h.read task.2) = some r → r.name = task.1 →
      r.path = task.2 → Answers report h task r
  | panicked {r : ScriptResult} {failure : Failure} : report task (h.read task.2) = none →
      r.name = task.1 → r.path = task.2 → r.outcome = .failed → r.failure = some failure →
      Answers report h task r

variable {language : PatternLanguage} {params : RunParams} {engine : Engine} {h : Host}
  {report : Report} {all : List Task}

/-- What a suite gives for a script. -/
def answer (report : Report) (h : Host) (task : Task) : ScriptResult :=
  (report task (h.read task.2)).getD (.panicked task.1 task.2)

theorem OwnFile.answers (own : OwnFile engine report all h) {task : Task} (mem : task ∈ all) :
    Answers report h task (answer report h task) := by
  obtain ⟨before, after, rfl⟩ := List.append_of_mem mem
  have ended := own before task after (.refl _)
  rw [answer]
  cases reported : report task (h.read task.2) with
  | none => exact .panicked reported rfl rfl rfl rfl
  | some r =>
    rw [reported] at ended
    obtain ⟨name, path⟩ := Engine.named_of_run (Prod.ext ended rfl)
    exact .finished reported name path

/-- Scripts that run in turn or together end as their files say. -/
theorem OwnFile.runTasks (own : OwnFile engine report all h) (isSerial : Bool) :
    (runTasks (fun task => engine.run task.1 task.2) isSerial all h).1 =
      all.map fun task => .ofResult? (report task (h.read task.2)) := by
  rw [Suite.runTasks]
  split
  · apply Gathering.inTurn_eq_map
    intro before task after split
    exact own before task after (split ▸ .refl _)
  · exact Gathering.together_eq_map own

/-- Each end gives one result. -/
theorem mapM_resultOf (report : Report) (h : Host) (all : List Task) :
    ((all.zip (all.map fun task => RunEnd.ofResult? (report task (h.read task.2)))).mapM
      fun (task, e) => resultOf task e) = some (all.map (answer report h)) := by
  induction all with
  | nil => rfl
  | cons task rest ih =>
    have first : resultOf task (.ofResult? (report task (h.read task.2))) =
        some (answer report h task) := by
      rw [answer]
      cases report task (h.read task.2) <;> rfl
    simp [first, ih]

/-- Scripts that mind their own files give the same results in turn and together, in whatever order
they end. -/
theorem OwnFile.runScripts {paths : List Location} (own : OwnFile engine report (chosen params h paths) h)
    (made : Engine.make language params = .ok engine)
    (found : findScripts h params.target = .ok paths) (isSerial : Bool) :
    (runScripts language { params with isSerial := isSerial } h).1 =
      .finished ((chosen params h paths).map (answer report h)) := by
  have listed : tasks { params with isSerial := isSerial } h = .ok (chosen params h paths) :=
    tasks_eq found
  have ended := own.runTasks isSerial
  rw [Suite.runScripts, Engine.make_withSerial made]
  simp only [listed, Engine.run_withSerial, ended, mapM_resultOf]

/-! ### The verdict on a suite -/

/-- None has failed if and only if no outcome is a failure. -/
theorem countFailed_eq_zero_iff {results : List ScriptResult} :
    countFailed results = 0 ↔ ∀ r ∈ results, r.outcome ≠ .failed := by
  rw [countFailed, List.length_eq_zero_iff, List.filter_eq_nil_iff]
  simp [ScriptResult.hasPassed]

/-- A suite fails if one of its scripts does, and tells how many there are of both. -/
theorem execute_of_finished {results : List ScriptResult}
    (ran : (Suite.runScripts language params h).1 = .finished results) :
    ((execute language params h).1 = some (.ok ()) ↔
        ∀ r ∈ results, r.outcome ≠ .failed) ∧
      ∀ e, (execute language params h).1 = some (.error e) ↔
        (∃ r ∈ results, r.outcome = .failed) ∧
          e = .scriptsFailed (results.countP fun r => r.outcome = .failed) results.length := by
  have counted : results.countP (fun r => r.outcome = .failed) = countFailed results := by
    rw [countFailed, ← List.countP_eq_length_filter]
    simp [ScriptResult.hasPassed]
  have some_iff : (∃ r ∈ results, r.outcome = .failed) ↔ countFailed results ≠ 0 := by
    rw [ne_eq, countFailed_eq_zero_iff]
    simp
  have verdict : (execute language params h).1 = some (if countFailed results = 0 then .ok ()
      else .error (.scriptsFailed (countFailed results) results.length)) := by
    rw [execute]
    split
    · next refused => simp [refused] at ran
    · next endless => simp [endless] at ran
    · next same =>
      simp only [same, SuiteEnd.finished.injEq] at ran
      rw [ran]
  rw [verdict, counted, some_iff, ← countFailed_eq_zero_iff]
  by_cases zero : countFailed results = 0
  · simp [zero]
  · simp [zero, eq_comm]

/-- Whether scripts run in turn or together, and however those that run together end, there is one
result for each script that is chosen, in the order of their locations. A run that breaks off is a
failure of its own script and is nothing to the others. The suite fails if and only if one of the
results is a failure. -/
theorem runScripts_of_ownFile {paths : List Location} (made : Engine.make language params = .ok engine)
    (found : findScripts h params.target = .ok paths)
    (own : OwnFile engine report (chosen params h paths) h) :
    (paths.Pairwise fun p q => p.le q = true) ∧
    ∃ results, List.Forall₂ (Answers report h) (chosen params h paths) results ∧
      ∀ isSerial,
        (runScripts language { params with isSerial := isSerial } h).1 = .finished results ∧
        ((execute language { params with isSerial := isSerial } h).1 = some (.ok ()) ↔
          ∀ r ∈ results, r.outcome ≠ .failed) ∧
        ∀ e, (execute language { params with isSerial := isSerial } h).1 = some (.error e) ↔
          (∃ r ∈ results, r.outcome = .failed) ∧
            e = .scriptsFailed (results.countP fun r => r.outcome = .failed) results.length := by
  refine ⟨pairwise_findScripts found, (chosen params h paths).map (answer report h), ?_, ?_⟩
  · rw [List.forall₂_map_right_iff, List.forall₂_same]
    intro task mem
    exact own.answers mem
  · intro isSerial
    have ran := own.runScripts made found isSerial
    exact ⟨ran, execute_of_finished ran⟩

/-! ### A script that breaks off -/

/-- A command whose handler breaks off. -/
def boom : Command :=
  ⟨false, fun _ _ => throw .panic⟩

/-- Scripts that run together, unless their names lack an `s`. -/
def mixedParams : RunParams :=
  { RunParams.ofTarget ⟨"/w"⟩ with commands := [("boom", boom)], filter := some "s" }

def mixedFile (source : String) : File :=
  ⟨Text.bytesOf source, 0o644, false⟩

/-- The files of a folder with two such scripts, one of which breaks off. -/
def mixedFolder : Listing :=
  .file ['m', '.', 't', 'x', 't'] (mixedFile "stop\n")
    (.folder ['s'] 0o755 (.file ['2', '.', 't', 'x', 't'] (mixedFile "boom\n") .empty)
      (.file ['s', '1', '.', 't', 'x', 't'] (mixedFile "stop\n") .empty))

/-- A host on which scripts that have been begun later end first. -/
def mixedHost : Host :=
  { Session.hostOf (.folder ['t', 'm', 'p'] 0o755 .empty
      (.folder ['w'] 0o755 mixedFolder .empty)) with
    finishing := fun n => (List.range n).reverse }

/-- What the scripts come to. -/
def mixedReport (task : Task) (data : Except HostError Bytes) : Option ScriptResult :=
  if data = .ok (Text.bytesOf "boom\n") then none
  else some { ScriptResult.new task.1 task.2 with log := "> stop\n" }

def mixed : Engine :=
  ⟨mixedParams, ⟨(Registry.builtinWith Engine.noPatterns).entries ++ [("boom", boom)]⟩⟩

def mixedPaths : List Location :=
  [Path.mk "/w/m.txt", Path.mk "/w/s/2.txt", Path.mk "/w/s1.txt"]

def mixedTasks : List Task :=
  [("s/2", Path.mk "/w/s/2.txt"), ("s1", Path.mk "/w/s1.txt")]

/-- It is enough to look at each script in each order. -/
theorem ownFile_of_orders
    (ended : ∀ order ∈ all.permutations', ∀ i ∈ List.range order.length, ∀ task ∈ order[i]?,
      (engine.run task.1 task.2
        (Gathering.inTurn (fun other => engine.run other.1 other.2) (order.take i) h).2).1 =
          .ofResult? (report task (h.read task.2))) :
    OwnFile engine report all h := by
  intro before task after perm
  have own := ended _ (List.mem_permutations'.mpr perm) before.length (by simp) task (by simp)
  rwa [List.take_left] at own

theorem runScripts_of_ownFile_mixed :
    ∃ results, List.Forall₂ (Answers mixedReport mixedHost) mixedTasks results ∧
      ∀ isSerial, (runScripts Engine.noPatterns { mixedParams with isSerial := isSerial }
        mixedHost).1 = .finished results := by
  have made : Engine.make Engine.noPatterns mixedParams = .ok mixed := rfl
  have found : findScripts mixedHost mixedParams.target = .ok mixedPaths := by
    have node : mixedHost.node mixedParams.target = .ok (.folder 0o755 mixedFolder) := by
      decide +kernel
    have listed : scriptsIn mixedParams.target mixedFolder = mixedPaths := by decide +kernel
    have sorted : mixedPaths.Pairwise fun p q => p.le q = true := by decide +kernel
    simp only [findScripts, node, listed, List.mergeSort_of_pairwise sorted]
  have picked : chosen mixedParams mixedHost mixedPaths = mixedTasks := by decide +kernel
  have own : OwnFile mixed mixedReport mixedTasks mixedHost :=
    ownFile_of_orders (by decide +kernel)
  obtain ⟨-, results, answers, ran⟩ := runScripts_of_ownFile made found (picked ▸ own)
  rw [picked] at answers
  exact ⟨results, answers, fun isSerial => (ran isSerial).1⟩

end Suite
end ScriptSuite
