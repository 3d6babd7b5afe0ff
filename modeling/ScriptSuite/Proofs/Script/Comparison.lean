import ScriptSuite.Proofs.Script.Separator
import ScriptSuite.Proofs.Text.Utf8
import ScriptSuite.Script.Comparison

/-!
What a comparison finds, and what an update may put into an archive.
-/

namespace ScriptSuite.Comparison

open Text

/-- An update puts the actual text into the golden file, and is only made where the texts
differ. -/
theorem judge_eq_updated_iff {c : Comparison} {script script' : Script} {update : Bool} :
    c.judge script update = .updated script' ↔
      c.agrees = false ∧ update = true ∧ c.updated? script = some script' := by
  unfold judge
  cases c.agrees with
  | true => simp
  | false =>
    cases update with
    | false => simp
    | true => cases c.updated? script <;> simp

/-- The text of an update that is not refused holds no separator. -/
theorem clear_of_not_refused {c : Comparison} {update : Bool} {entry : String}
    (h : c.refusal? update = none) (golden : c.golden = some entry) (canUpdate : update = true)
    (differ : c.agrees = false) : Separator.occursIn c.actual.toList = false := by
  simpa [refusal?, golden, canUpdate, differ] using h

/-- The texts of two files match if and only if the bytes of the files, each with a line feed
at its end, are read alike. -/
theorem agrees_iff {c : Comparison} {as bs : Bytes} (actual : c.actual = stringOf as)
    (expected : c.expected = stringOf bs) :
    c.agrees = true ↔ decodeLossy (normalizeBytes as) = decodeLossy (normalizeBytes bs) := by
  rw [agrees, beq_iff_eq, normalized, normalized, actual, expected, ← String.toList_inj,
    String.toList_ofList, String.toList_ofList, stringOf, stringOf, String.toList_ofList,
    String.toList_ofList, decodeLossy_normalizeBytes, decodeLossy_normalizeBytes]

end ScriptSuite.Comparison
