import Mathlib.Data.List.TakeDrop
import Mathlib.Data.List.TakeWhile
import ScriptSuite.Path.Name
import ScriptSuite.Proofs.Text.Utf8

/-!
Names and their bytes.

A name is told by its bytes: there is one name for any bytes (`ofBytes_bytes`, `bytes_ofBytes`), and
different names have different bytes (`bytes_injective`). So what is said of a name in terms of its
bytes, such as where its extension starts (`extension?_eq_some_iff`), is said of texts and of raw
names alike.
-/

namespace ScriptSuite.EntryName

variable {bs before after : Bytes}

/-- Names are told apart by their bytes, texts and raw names alike. -/
theorem bytes_injective : Function.Injective bytes := by
  rintro (cs | name) (ds | other) same
  · exact congrArg text (Text.encode_injective same)
  · have readable := Text.decode?_eq_some_iff.mpr (Eq.symm same)
    cases other.notText.symm.trans readable
  · have readable := Text.decode?_eq_some_iff.mpr same
    cases name.notText.symm.trans readable
  · cases name
    cases same
    rfl

@[simp] theorem bytes_ofBytes (bs : Bytes) : (ofBytes bs).bytes = bs := by
  rw [ofBytes]
  split
  · next readable => exact (Text.decode?_eq_some_iff.mp readable).symm
  · rfl

/-- A name is made anew from its bytes; there is only one for them. -/
@[simp] theorem ofBytes_bytes (name : EntryName) : ofBytes name.bytes = name :=
  bytes_injective (bytes_ofBytes name.bytes)

/-! ### Extensions -/

/-- A list is cut before the first entry that is not of a kind. -/
theorem span_eq_cons_iff {kind : UInt8 → Bool} {front rest : Bytes} {b : UInt8} :
    bs.span kind = (front, b :: rest) ↔
      bs = front ++ b :: rest ∧ kind b = false ∧ ∀ d ∈ front, kind d = true := by
  rw [List.span_eq_takeWhile_dropWhile, Prod.mk.injEq]
  constructor
  · rintro ⟨rfl, dropped⟩
    have stops := List.head?_dropWhile_not kind bs
    rw [dropped] at stops
    refine ⟨by rw [← dropped, List.takeWhile_append_dropWhile], by simpa using stops, ?_⟩
    intro d mem
    exact List.mem_takeWhile_imp mem
  · rintro ⟨rfl, ends, inside⟩
    rw [List.takeWhile_append_of_pos inside, List.dropWhile_append_of_pos inside]
    simp [ends]

/-- A name is cut at its last dot, if something stands before that. -/
theorem splitAtDot?_eq_some_iff : splitAtDot? bs = some (before, after) ↔
    dotByte ∉ after ∧ before ≠ [] ∧ bs = before ++ dotByte :: after := by
  rw [splitAtDot?]
  constructor
  · intro split
    rcases cut : bs.reverse.span (· != dotByte) with ⟨last, _ | ⟨dot, front⟩⟩ <;>
      rw [cut] at split
    · cases split
    · obtain ⟨reversed, isDot, clear⟩ := span_eq_cons_iff.mp cut
      obtain rfl : dot = dotByte := by simpa using isDot
      cases front with
      | nil => cases split
      | cons b front =>
        simp only [List.isEmpty_cons, Bool.false_eq_true, if_false, Option.some.injEq,
          Prod.mk.injEq] at split
        obtain ⟨rfl, rfl⟩ := split
        refine ⟨fun mem => ?_, by simp, ?_⟩
        · simpa using clear dotByte (List.mem_reverse.mp mem)
        · rw [← List.reverse_reverse bs, reversed]
          simp
  · rintro ⟨noDot, ne, rfl⟩
    have cut : (before ++ dotByte :: after).reverse.span (· != dotByte) =
        (after.reverse, dotByte :: before.reverse) := by
      refine span_eq_cons_iff.mpr ⟨by simp, by simp, fun b mem => ?_⟩
      exact bne_iff_ne.mpr fun same => noDot (List.mem_reverse.mp (same ▸ mem))
    rw [cut]
    simp [ne]

/-- The extension of a name is the text that its bytes end with after their last dot, if something
stands before that. -/
theorem extension?_eq_some_iff {name : EntryName} {ext : List Char} :
    name.extension? = some ext ↔
      dotByte ∉ Text.encode ext ∧ ∃ stem, stem ≠ [] ∧
        name.bytes = stem ++ dotByte :: Text.encode ext := by
  rw [extension?, Option.bind_eq_some_iff]
  constructor
  · rintro ⟨⟨before, after⟩, split, readable⟩
    obtain ⟨noDot, ne, whole⟩ := splitAtDot?_eq_some_iff.mp split
    obtain rfl := Text.decode?_eq_some_iff.mp readable
    exact ⟨noDot, before, ne, whole⟩
  · rintro ⟨noDot, stem, ne, whole⟩
    exact ⟨(stem, _), splitAtDot?_eq_some_iff.mpr ⟨noDot, ne, whole⟩,
      Text.decode?_eq_some_iff.mpr rfl⟩

end ScriptSuite.EntryName
