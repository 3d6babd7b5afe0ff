import ScriptSuite.Proofs.Script.Convergence

/-!
The verdict of a comparison, and what it does to the script.

Texts match if they are equal up to a line feed that one of them lacks at its end (`Alike`,
`agrees_iff_alike`). Of texts that do not match the actual one takes the place of the data of the
golden file, in update mode and if there is such a file; nothing else of the script changes
(`Script.Puts`), and after that the texts match. Otherwise there is a mismatch
(`judge_outcomes`).
-/

namespace ScriptSuite

open Text

/-! ### Putting data into a file -/

namespace Script

/-- The first file of a name has got other data, and nothing else has changed. -/
structure Puts (name : String) (data : Bytes) (s t : Script) : Prop where
  instructions : t.instructions = s.instructions
  preamble : t.preamble = s.preamble
  files : ∃ before f after, s.files = before ++ f :: after ∧ f.name = name ∧
    (∀ g ∈ before, g.name ≠ name) ∧ t.files = before ++ { f with data := data } :: after

variable {s t : Script} {name : String} {data : Bytes}

theorem hasFile_iff : s.hasFile name = true ↔ ∃ f ∈ s.files, f.name = name := by
  simp [hasFile]

/-- A list with a file of some name is cut at the first of them, whose data is replaced. -/
theorem replaceIn_cut {files : List ArchiveFile} (there : ∃ f ∈ files, f.name = name) :
    ∃ before f after, files = before ++ f :: after ∧ f.name = name ∧
      (∀ g ∈ before, g.name ≠ name) ∧
      replaceIn name data files = before ++ { f with data := data } :: after := by
  induction files with
  | nil => simp at there
  | cons f files ih =>
    by_cases named : f.name = name
    · refine ⟨[], f, files, rfl, named, by simp, ?_⟩
      rw [replaceIn, if_pos named, List.nil_append]
    · have later : ∃ g ∈ files, g.name = name := by simpa [named] using there
      obtain ⟨before, g, after, cut, same, others, replaced⟩ := ih later
      refine ⟨f :: before, g, after, by rw [cut, List.cons_append], same, ?_, ?_⟩
      · exact List.forall_mem_cons.mpr ⟨named, others⟩
      · rw [replaceIn, if_neg named, replaced, List.cons_append]

theorem puts_of_setFile? (set : s.setFile? name data = some t) : s.Puts name data t := by
  rw [setFile?] at set
  split at set
  · next there =>
    cases set
    exact ⟨rfl, rfl, replaceIn_cut (hasFile_iff.mp there)⟩
  · contradiction

/-- A file can be set if and only if the archive has it. -/
theorem setFile?_isSome_iff : (∃ t, s.setFile? name data = some t) ↔ s.hasFile name = true := by
  simp [setFile?]

/-- The file that data has been put into is the one that is found under its name. -/
theorem Puts.file? (puts : s.Puts name data t) :
    ∃ f, t.file? name = some f ∧ f.data = data := by
  obtain ⟨before, f, after, -, named, others, files⟩ := puts.files
  refine ⟨{ f with data := data }, ?_, rfl⟩
  have skipped : before.find? (fun g => g.name == name) = none := by
    simpa using others
  rw [Script.file?, files, List.find?_append, skipped, Option.none_or]
  exact List.find?_cons_of_pos (beq_iff_eq.mpr named)

end Script

namespace Comparison

/-! ### Texts that match -/

/-- The text is not empty and has no line feed at its end. -/
def LacksFeed (text : String) : Prop :=
  text ≠ "" ∧ text.toList.getLast? ≠ some '\n'

/-- Two texts are equal up to a line feed that one of them lacks at its end. -/
inductive Alike : String → String → Prop where
  | same (text : String) : Alike text text
  | left {text : String} : LacksFeed text → Alike text (text ++ "\n")
  | right {text : String} : LacksFeed text → Alike (text ++ "\n") text

theorem normalized_of_lacksFeed {text : String} (lacks : LacksFeed text) :
    normalized text = text ++ "\n" := by
  have unended : endsWithFeed text.toList = false := beq_eq_false_iff_ne.mpr lacks.2
  have ne : text.toList ≠ [] := fun nil => lacks.1 (String.toList_eq_nil_iff.mp nil)
  rw [normalized, normalize_eq_append ne unended, String.ofList_append, String.ofList_toList]

theorem normalized_eq_self {text : String} (closed : ¬LacksFeed text) : normalized text = text := by
  have none : text.toList = [] ∨ endsWithFeed text.toList = true := by
    rw [LacksFeed, not_and_or, not_not, not_not] at closed
    exact closed.imp String.toList_eq_nil_iff.mpr beq_iff_eq.mpr
  rw [normalized, normalize_eq_self none, String.ofList_toList]

theorem not_lacksFeed_append (text : String) : ¬LacksFeed (text ++ "\n") := by
  rintro ⟨-, last⟩
  exact last (by simp)

/-- Texts agree if and only if they are the same up to a line feed that one of them lacks at its
end. -/
theorem agrees_iff_alike {c : Comparison} : c.agrees = true ↔ Alike c.actual c.expected := by
  rw [agrees, beq_iff_eq]
  generalize c.actual = a
  generalize c.expected = b
  constructor
  · intro same
    by_cases lacksA : LacksFeed a
    · rw [normalized_of_lacksFeed lacksA] at same
      by_cases lacksB : LacksFeed b
      · rw [normalized_of_lacksFeed lacksB] at same
        rw [String.append_left_inj _ |>.mp same]
        exact .same b
      · rw [normalized_eq_self lacksB] at same
        exact same ▸ .left lacksA
    · rw [normalized_eq_self lacksA] at same
      by_cases lacksB : LacksFeed b
      · rw [normalized_of_lacksFeed lacksB] at same
        exact same ▸ .right lacksB
      · rw [normalized_eq_self lacksB] at same
        exact same ▸ .same a
  · intro alike
    cases alike with
    | same => rfl
    | left lacks =>
      rw [normalized_of_lacksFeed lacks, normalized_eq_self (not_lacksFeed_append a)]
    | right lacks =>
      rw [normalized_of_lacksFeed lacks, normalized_eq_self (not_lacksFeed_append b)]

/-! ### Verdicts -/

/-- The script that a comparison leaves. -/
def Verdict.script (s : Script) : Verdict → Script
  | .updated t => t
  | .matched | .mismatch => s

variable {c : Comparison} {s t : Script} {update : Bool}

theorem judge_eq_matched_iff : c.judge s update = .matched ↔ Alike c.actual c.expected := by
  rw [← agrees_iff_alike, judge]
  cases c.agrees with
  | true => simp
  | false =>
    cases update with
    | false => simp
    | true => cases c.updated? s <;> simp

/-- The golden file can be updated: that is wanted, and there is such a file. -/
def CanUpdate (c : Comparison) (s : Script) (update : Bool) : Prop :=
  update = true ∧ ∃ name, c.golden = some name ∧ s.hasFile name = true

theorem updated?_isSome_iff :
    (∃ t, c.updated? s = some t) ↔ ∃ name, c.golden = some name ∧ s.hasFile name = true := by
  rw [updated?]
  cases c.golden with
  | none => simp
  | some name => simpa using Script.setFile?_isSome_iff

/-- An update is made if and only if the texts differ and the archive has a golden file that may be
updated. -/
theorem exists_judge_eq_updated_iff :
    (∃ t, c.judge s update = .updated t) ↔
      ¬Alike c.actual c.expected ∧ c.CanUpdate s update := by
  simp only [judge_eq_updated_iff, exists_and_left, updated?_isSome_iff, CanUpdate,
    ← agrees_iff_alike, Bool.not_eq_true]

/-- In all other cases the comparison is a mismatch. -/
theorem judge_eq_mismatch_iff :
    c.judge s update = .mismatch ↔ ¬Alike c.actual c.expected ∧ ¬c.CanUpdate s update := by
  have matched : c.judge s update = .matched ↔ Alike c.actual c.expected := judge_eq_matched_iff
  have updated : (∃ t, c.judge s update = .updated t) ↔
      ¬Alike c.actual c.expected ∧ c.CanUpdate s update := exists_judge_eq_updated_iff
  cases verdict : c.judge s update with
  | matched => simp [← matched, verdict]
  | updated t =>
    have can := (updated.mp ⟨t, verdict⟩).2
    simp [can]
  | mismatch =>
    have differ : ¬Alike c.actual c.expected := by
      rw [← matched, verdict]
      exact nofun
    have cannot : ¬c.CanUpdate s update := fun can => by
      obtain ⟨t, other⟩ := updated.mpr ⟨differ, can⟩
      cases verdict.symm.trans other
    exact iff_of_true rfl ⟨differ, cannot⟩

/-- A comparison has one of three outcomes. The texts match; or they do not, and in update mode
the actual text takes the place of the data of the golden file, if there is one; or there is a
mismatch. Only an update changes the script, in that place alone, and afterwards the actual text
matches the new data of the file. -/
theorem judge_outcomes (c : Comparison) (s : Script) (update : Bool) :
    (c.judge s update = .matched ↔ Alike c.actual c.expected) ∧
    ((∃ t, c.judge s update = .updated t) ↔
      ¬Alike c.actual c.expected ∧ c.CanUpdate s update) ∧
    (c.judge s update = .mismatch ↔
      ¬Alike c.actual c.expected ∧ ¬c.CanUpdate s update) ∧
    (∀ t, c.judge s update = .updated t → ∃ name f, c.golden = some name ∧
      s.Puts name (bytesOf c.actual) t ∧ t.file? name = some f ∧
      ∀ again, judge { c with expected := stringOf f.data } t again = .matched) ∧
    (c.judge s update = .matched ∨ c.judge s update = .mismatch →
      (c.judge s update).script s = s) := by
  refine ⟨judge_eq_matched_iff, exists_judge_eq_updated_iff, judge_eq_mismatch_iff, ?_, ?_⟩
  · intro t updated
    obtain ⟨-, -, changed⟩ := judge_eq_updated_iff.mp updated
    obtain ⟨name, golden, set⟩ := Option.bind_eq_some_iff.mp changed
    have puts := Script.puts_of_setFile? set
    obtain ⟨f, found, data⟩ := puts.file?
    refine ⟨name, f, golden, puts, found, fun again => judge_eq_matched_iff.mpr ?_⟩
    have text : stringOf f.data = c.actual := by
      rw [data, stringOf, bytesOf, decodeLossy_encode, String.ofList_toList]
    rw [text]
    exact .same c.actual
  · rintro (matched | mismatch)
    · rw [matched]
      rfl
    · rw [mismatch]
      rfl

/-- An empty text is no text of one line feed. -/
example (s : Script) :
    judge ⟨"got", "", "want", "\n", some "want"⟩ s false = .mismatch := by
  rfl

end Comparison
end ScriptSuite
