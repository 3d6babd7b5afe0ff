import ScriptSuite.Proofs.Session.Containment
import ScriptSuite.Proofs.Suite.Preparation

/-!
How a run sets up its session.

Setting up a session writes nothing outside the sandbox, and an entry whose name leads out of it
ends the run, with the sandbox removed (`setup_contained`).
-/

namespace ScriptSuite

open Session

namespace Host

variable {h h' : Host} {root : Path}

/-- When a sandbox is removed, nothing is left of it, and all else stays. -/
theorem removeSandbox_within (found : h.place root = .ok (root.landing h.folder))
    (leads : h.LeadsToFolder root) (own : root.landing h.folder ≠ [])
    (within : h.ChangesWithin (root.landing h.folder) h') :
    (h'.removeSandbox root).files.find? (root.landing h.folder) = none ∧
      h.files.SameOutside (root.landing h.folder) (h'.removeSandbox root).files := by
  have found' : h'.place root = .ok (root.landing h.folder) := by
    rw [place, within.folder]
    exact Node.placeFrom_of_hasFolder within.folders leads.stands found
  rw [removeSandbox, found']
  exact ⟨Node.find?_remove_self own h'.files,
    within.outside.trans (Node.sameOutside_remove _ h'.files)⟩

end Host

namespace Engine

variable {e : Engine} {name : String} {path : Location} {root : Path} {start : Instant}
  {h₀ h h' : Host}
  {script : Script} {deadline : Option Instant} {err : HostError}

/-- A session that cannot be set up is reported as a failure, and its sandbox is removed. -/
theorem prepare_of_open?_error (loaded : Suite.loadScript h₀ path = .ok script)
    (made : e.makeSandbox h₀ = (.ok root, h)) (represented : e.deadline? start = some deadline)
    (refused : open? script root (e.options deadline) h = .error (err, h')) :
    e.prepare name path start h₀ =
      .error (.finished ((ScriptResult.new name path).fail none (RunError.sandbox err).message),
        h'.removeSandbox root) := by
  rw [prepare, loaded]
  simp only [made, represented, refused]

/-- Setting up a session in an empty sandbox writes to paths lexically at or below it, makes no
folders but such, and changes nothing outside, whether it succeeds or not. If the name of an entry
is absolute or has a step up, it fails with what entries before that one have left. A run whose
session cannot be set up has failed, and of its sandbox nothing is left. -/
theorem setup_contained {options : SessionOptions} {mode : Nat} (absolute : root.isAbsolute = true)
    (sandbox : h.node root = .ok (.folder mode .empty)) :
    (∀ file p, sandboxPath root file = .ok p → p.clean.isWithin root.clean = true ∧
      ∀ parent, p.parent? = some parent →
        parent.clean.isWithin root.clean = true ∨ h.files.HasFolder (parent.landing h.folder)) ∧
    (root.join scratchFolder).clean.isWithin root.clean = true ∧
    h.ChangesWithin (root.landing h.folder) (hostAfter (open? script root options h)) ∧
    (∀ before file after, script.files = before ++ file :: after → Escapes file →
      ∃ err, open? script root options h = .error (err, (writeArchive root before h).2)) ∧
    (∀ err h', open? script root options h = .error (err, h') →
      ∀ (e : Engine) name path start h₀ deadline, Suite.loadScript h₀ path = .ok script →
        e.makeSandbox h₀ = (.ok root, h) → e.deadline? start = some deadline →
        options = e.options deadline →
        e.prepare name path start h₀ =
          .error (.finished
              ((ScriptResult.new name path).fail none (RunError.sandbox err).message),
            h'.removeSandbox root) ∧
        (h'.removeSandbox root).files.find? (root.landing h.folder) = none ∧
        h.files.SameOutside (root.landing h.folder) (h'.removeSandbox root).files) := by
  obtain ⟨found, leads⟩ := Host.leadsToFolder_of_node sandbox
  have within := open?_within absolute leads script options
  have scratch : sandboxPath root scratchFolder = .ok (root.join scratchFolder) :=
    sandboxPath_eq_ok_iff.mpr ⟨by decide, rfl⟩
  refine ⟨?_, isWithin_of_sandboxPath absolute scratch, within, ?_, ?_⟩
  · intro file p inside
    refine ⟨isWithin_of_sandboxPath absolute inside, ?_⟩
    exact fun parent above => parent_of_sandboxPath absolute leads inside above
  · intro before file after entries escapes
    exact open?_of_escapes entries escapes options h
  · rintro err h' refused e name path start h₀ deadline loaded made represented rfl
    rw [refused] at within
    have own : root.landing h.folder ≠ [] := by
      obtain ⟨name, components⟩ := (sandboxed_of_make made).components
      rw [Path.landing, components, List.foldl_append]
      exact List.append_ne_nil_of_right_ne_nil _ (List.cons_ne_nil _ _)
    exact ⟨prepare_of_open?_error loaded made represented refused,
      Host.removeSandbox_within found leads own within⟩

/-- A host with a script that has an entry outside its sandbox. -/
def escapingHost : Host :=
  (plainHost "-- a --\nx\n-- ../b --\ny\n").time.2

theorem setup_contained_escaping :
    ∃ err h', (plain false).prepare "t" plainPath default escapingHost =
        .error (.finished
          ((ScriptResult.new "t" plainPath).fail none (RunError.sandbox err).message), h') ∧
      h'.files.find? [['t', 'm', 'p'], "scriptest-aaaaaa".toList] = none := by
  obtain ⟨script, loaded, entries⟩ : ∃ script,
      Suite.loadScript escapingHost plainPath = .ok script ∧
        script.files =
          [⟨"a", [0x78, 0x0A], .lineFeed⟩] ++ ⟨"../b", [0x79, 0x0A], .lineFeed⟩ :: [] := by
    have read : (Suite.loadScript escapingHost plainPath).toOption.map Script.files =
        some [⟨"a", [0x78, 0x0A], .lineFeed⟩, ⟨"../b", [0x79, 0x0A], .lineFeed⟩] := by
      decide +kernel
    obtain ⟨script, loaded, files⟩ := Option.map_eq_some_iff.mp read
    exact ⟨script, eq_ok_of_toOption loaded, files⟩
  have path : ((plain false).makeSandbox escapingHost).1 = .ok ⟨"/tmp/scriptest-aaaaaa"⟩ := by
    decide +kernel
  have sandbox : ((plain false).makeSandbox escapingHost).2.node (Path.mk "/tmp/scriptest-aaaaaa") =
      .ok (.folder 0o700 .empty) := by
    decide +kernel
  have landing : (Path.mk "/tmp/scriptest-aaaaaa").landing
      ((plain false).makeSandbox escapingHost).2.folder =
        [['t', 'm', 'p'], "scriptest-aaaaaa".toList] := by
    decide +kernel
  obtain ⟨err, refused⟩ : ∃ err, open? script ⟨"/tmp/scriptest-aaaaaa"⟩ ((plain false).options none)
      ((plain false).makeSandbox escapingHost).2 = .error (err, _) :=
    (setup_contained (by decide) sandbox).2.2.2.1 _ _ _ entries (.inr (by decide))
  obtain ⟨prepared, gone, -⟩ := (setup_contained (by decide) sandbox).2.2.2.2 err _ refused
    (plain false) "t" plainPath default escapingHost none loaded (Prod.ext path rfl) rfl rfl
  rw [landing] at gone
  exact ⟨err, _, prepared, gone⟩

end Engine
end ScriptSuite
