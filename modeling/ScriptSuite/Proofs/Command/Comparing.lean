import ScriptSuite.Proofs.Command.Orderly

/-!
What `cmp` finds out about two files outside update mode.

It looks at texts and not at bytes: the bytes of both files are read leniently, and a line
feed is added where one is missing at the end (`cmp_run`). So it tells files of UTF-8 text
apart exactly (`cmp_ok_iff_of_utf8`), and other files unless reading replaces what they differ
in (`cmp_ok_iff`).
-/

namespace ScriptSuite.Matching

open Handler Text

section

variable {s : Session} {a b : String} {as bs : Bytes}

theorem textOfFile_run (file : Session.isOutputName a = false)
    (read : s.host.read (s.resolve a) = .ok as) :
    (textOfFile a).run s = .ok (stringOf as) s := by
  simp only [Session.isOutputName, Bool.or_eq_false_iff, beq_eq_false_iff_ne] at file
  have text : s.textOfFile a = .ok (stringOf as) := by
    rw [Session.textOfFile, if_neg file.1, if_neg file.2, read]
  unfold textOfFile
  rw [run_get_bind]
  simp only [text]
  rfl

/-- Outside update mode a comparison changes nothing, and fails if the texts differ. -/
theorem compareTexts_run (off : s.canUpdate = false) (negated : Bool) (c : Comparison) :
    (compareTexts negated c).run s =
      if c.agrees then .ok () s
      else .error (.error (.failed (if negated then c.headline else c.message))) s := by
  have refusal : c.refusal? false = none := by
    rw [Comparison.refusal?]
    cases c.golden <;> rfl
  unfold compareTexts
  rw [run_get_bind]
  simp only [off, refusal, Comparison.judge]
  cases c.agrees <;> rfl

variable (off : s.canUpdate = false) (fileA : Session.isOutputName a = false)
  (fileB : Session.isOutputName b = false) (readA : s.host.read (s.resolve a) = .ok as)
  (readB : s.host.read (s.resolve b) = .ok bs)

include off fileA fileB readA readB

omit off in
/-- On two files the command compares their texts, and nothing else of them. -/
theorem cmp_run_eq_compareTexts (negated : Bool) :
    ∃ golden, (cmp negated [a, b]).run s =
      (compareTexts negated ⟨a, stringOf as, b, stringOf bs, golden⟩).run s := by
  refine ⟨if Session.isOutputName b || false || negated then none else s.goldenName? b, ?_⟩
  unfold cmp compareFiles
  rw [run_bind_of_ok (textOfFile_run fileA readA), run_bind_of_ok (textOfFile_run fileB readB)]
  rfl

/-- The comparison of two files ends well if they are read alike, and fails otherwise. It
leaves the session as it was. -/
theorem cmp_run (negated : Bool) :
    ∃ message, (cmp negated [a, b]).run s =
      if decodeLossy (normalizeBytes as) = decodeLossy (normalizeBytes bs) then .ok () s
      else .error (.error (.failed message)) s := by
  obtain ⟨golden, run⟩ := cmp_run_eq_compareTexts fileA fileB readA readB negated
  have agrees : Comparison.agrees ⟨a, stringOf as, b, stringOf bs, golden⟩ = true ↔
      decodeLossy (normalizeBytes as) = decodeLossy (normalizeBytes bs) :=
    Comparison.agrees_iff rfl rfl
  rw [run, compareTexts_run off]
  simp only [agrees]
  exact ⟨_, rfl⟩

/-- The comparison comes to its end if and only if the files are read alike up to a missing line
feed. -/
theorem cmp_ok_iff (negated : Bool) :
    (∃ t, (cmp negated [a, b]).run s = .ok () t) ↔
      decodeLossy (normalizeBytes as) = decodeLossy (normalizeBytes bs) := by
  obtain ⟨message, run⟩ := cmp_run off fileA fileB readA readB negated
  rw [run]
  split
  · next alike => exact ⟨fun _ => alike, fun _ => ⟨s, rfl⟩⟩
  · next differ => exact ⟨fun ⟨_, ok⟩ => (by cases ok), fun alike => absurd alike differ⟩

/-- Files of UTF-8 text are told apart by their bytes. -/
theorem cmp_ok_iff_of_utf8 (negated : Bool) {cs ds : List Char} (utf8A : as = encode cs)
    (utf8B : bs = encode ds) :
    (∃ t, (cmp negated [a, b]).run s = .ok () t) ↔ normalizeBytes as = normalizeBytes bs := by
  rw [cmp_ok_iff off fileA fileB readA readB, utf8A, utf8B, ← encode_normalize,
    ← encode_normalize, decodeLossy_encode, decodeLossy_encode]
  exact ⟨fun eq => by rw [eq], encode_injective⟩

/-- `cmp` tells two files apart exactly as their bytes do, but for a line feed at the end, if
and only if their bytes are not read alike without being alike. -/
theorem cmp_exact_iff (negated : Bool) :
    ((∃ t, (cmp negated [a, b]).run s = .ok () t) ↔ normalizeBytes as = normalizeBytes bs) ↔
      (decodeLossy (normalizeBytes as) = decodeLossy (normalizeBytes bs) →
        normalizeBytes as = normalizeBytes bs) := by
  rw [cmp_ok_iff off fileA fileB readA readB]
  constructor
  · exact fun exact alike => exact.mp alike
  · exact fun faithful => ⟨faithful, fun same => by rw [same]⟩

end

/-- Two files with the same text, of which one lacks the line feed at its end. -/
def missingFeed : Listing :=
  .file ['a'] ⟨[0x78], 0o644, false⟩ (.file ['b'] ⟨[0x78, 0x0A], 0o644, false⟩ .empty)

theorem cmp_exact_iff_missingFeed :
    ((∃ t, (cmp false ["a", "b"]).run (Session.ofFiles missingFeed) = .ok () t) ↔
        normalizeBytes [0x78] = normalizeBytes [0x78, 0x0A]) ↔
      (decodeLossy (normalizeBytes [0x78]) = decodeLossy (normalizeBytes [0x78, 0x0A]) →
        normalizeBytes [0x78] = normalizeBytes [0x78, 0x0A]) := by
  have readA : (Session.ofFiles missingFeed).host.read
      ((Session.ofFiles missingFeed).resolve "a") = .ok [0x78] := rfl
  have readB : (Session.ofFiles missingFeed).host.read
      ((Session.ofFiles missingFeed).resolve "b") = .ok [0x78, 0x0A] := rfl
  exact cmp_exact_iff rfl (by decide) (by decide) readA readB false

/-- Two files, each of one byte that begins no character. -/
def twoMalformed : Listing :=
  .file ['a'] ⟨[0xFF], 0o644, false⟩ (.file ['b'] ⟨[0xFE], 0o644, false⟩ .empty)

/-- Bytes that begin no character are all read as the same mark. -/
theorem cmp_ok_of_malformed :
    (Session.ofFiles twoMalformed).host.read ((Session.ofFiles twoMalformed).resolve "a") =
        .ok [0xFF] ∧
      (Session.ofFiles twoMalformed).host.read ((Session.ofFiles twoMalformed).resolve "b") =
        .ok [0xFE] ∧
      ¬ ((∃ t, (cmp false ["a", "b"]).run (Session.ofFiles twoMalformed) = .ok () t) ↔
        normalizeBytes [0xFF] = normalizeBytes [0xFE]) := by
  refine ⟨rfl, rfl, fun exact => ?_⟩
  exact absurd (exact.mp ⟨_, rfl⟩) (by decide)

end ScriptSuite.Matching
