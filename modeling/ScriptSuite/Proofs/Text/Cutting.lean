import ScriptSuite.Proofs.Text.ByteLines

/-!
Texts that are cut.

Bytes that are read before all of them are there are read as the start of what they are read as in
the end, unless they end within the UTF-8 form of a character: the part of it that is there is read
as a replacement character (`decodeLossy_isPrefix_iff`).
-/

namespace ScriptSuite.Text

variable {read bs early late : Bytes} {p : Pending}

/-- The first bytes end within the UTF-8 form of a character, which the later ones complete. -/
def SplitsChar (early late : Bytes) : Prop :=
  ∃ front c read rest back, c ≠ replacement ∧ read ≠ [] ∧ rest ≠ [] ∧
    String.utf8EncodeChar c = read ++ rest ∧ early = front ++ read ∧
    late = front ++ (String.utf8EncodeChar c ++ back)

/-- What is held after a byte are the last of the bytes that have been read. -/
theorem Advance.exists_front {b : UInt8} {units : List (Option Char)}
    (h : Advance b read units p) : ∃ front read', read ++ [b] = front ++ read' ∧ Holds read' p := by
  induction h with
  | char _ => exact ⟨_, [], (List.append_nil _).symm, holds_idle⟩
  | more _ holds => exact ⟨[], _, rfl, holds⟩
  | gap => exact ⟨_, [], (List.append_nil _).symm, holds_idle⟩
  | @anew read _ _ _ _ ih =>
    obtain ⟨front, read', split, holds⟩ := ih
    exact ⟨read ++ front, read', by rw [List.append_assoc, ← split, List.nil_append], holds⟩

/-- Bytes are read as some units that no later byte changes, and the last of them are held. -/
theorem exists_held (h : Holds read p) (bs : Bytes) : ∃ units front read' q,
    read ++ bs = front ++ read' ∧ Holds read' q ∧
      ∀ more, decodeFrom p (bs ++ more) = units ++ decodeFrom q more := by
  induction bs generalizing read p with
  | nil => exact ⟨[], [], read, p, List.append_nil read, h, fun _ => rfl⟩
  | cons b bs ih =>
    obtain ⟨front, read', split, holds⟩ := (advance_nextByte h b).exists_front
    obtain ⟨units, front', read'', q, split', holds', reads⟩ := ih holds
    refine ⟨(nextByte p b).1 ++ units, front ++ front', read'', q, ?_, holds', fun more => ?_⟩
    · rw [List.append_cons, split, List.append_assoc, split', List.append_assoc]
    · rw [List.cons_append, decodeFrom_cons, reads, List.append_assoc]

/-- A part of the UTF-8 form of a character, from its start, is read as a gap. -/
theorem decodeUnits_of_split {c : Char} {rest : Bytes}
    (form : String.utf8EncodeChar c = read ++ rest)
    (ne : read ≠ []) (more : rest ≠ []) : decodeUnits read = [none] := by
  obtain ⟨units, front, read', q, -, holds, reads⟩ := exists_held holds_idle read
  -- the whole form is read as one character, which is not there before the last byte
  have whole : units ++ decodeFrom q rest = [some c] := by
    rw [← reads, ← form, ← List.append_nil (String.utf8EncodeChar c),
      decodeFrom_encodeChar_append]
    rfl
  have later := decodeFrom_ne_nil holds (.inr more)
  obtain rfl : units = [] := by
    rcases List.append_eq_singleton_iff.mp whole with ⟨none, -⟩ | ⟨-, none⟩
    · exact none
    · exact absurd none later
  have now := reads []
  rw [List.append_nil, List.nil_append] at now
  cases q with
  | idle => exact absurd now (decodeFrom_ne_nil holds_idle (.inr ne))
  | within => exact now

/-- What is read early is the start of what is read late, unless a character is cut. -/
theorem decodeLossy_isPrefix_iff (goesOn : early <+: late) :
    decodeLossy early <+: decodeLossy late ↔ ¬SplitsChar early late := by
  constructor
  · rintro starts ⟨front, c, read, rest, back, other, ne, more, form, rfl, rfl⟩
    obtain ⟨lead, tail, shape, opens, -⟩ := encodeChar_cases c
    obtain ⟨first, others, rfl⟩ := List.exists_cons_of_ne_nil ne
    obtain ⟨rfl, -⟩ := List.cons.inj (shape.symm.trans form)
    have early : decodeUnits (front ++ lead :: others) = decodeUnits front ++ [none] := by
      rw [← decodeUnits_of_split form ne more]
      exact decodeFrom_append_of_opens holds_idle opens front others
    have late : decodeUnits (front ++ (String.utf8EncodeChar c ++ back)) =
        decodeUnits front ++ some c :: decodeUnits back := by
      have completed : decodeUnits (String.utf8EncodeChar c ++ back) = some c :: decodeUnits back :=
        decodeFrom_encodeChar_append c back
      rw [← completed, shape]
      exact decodeFrom_append_of_opens holds_idle opens front (tail ++ back)
    rw [decodeLossy, decodeLossy, early, late, List.map_append, List.map_append,
      List.prefix_append_right_inj] at starts
    exact other (List.cons_prefix_cons.mp starts).1.symm
  · intro whole
    obtain ⟨more, rfl⟩ := goesOn
    obtain ⟨units, front, read, q, split, holds, reads⟩ := exists_held holds_idle early
    have now := reads []
    rw [List.append_nil] at now
    rw [decodeLossy, decodeLossy, decodeUnits, decodeUnits, now, reads, List.map_append,
      List.map_append, List.prefix_append_right_inj]
    cases q with
    | idle => exact List.nil_prefix
    | within value missing low high =>
      have goesOn : decodeFrom (.within value missing low high) more ≠ [] :=
        decodeFrom_ne_nil holds (.inl (by simp))
      obtain ⟨unit, later, first⟩ := List.exists_cons_of_ne_nil goesOn
      rw [first]
      refine List.cons_prefix_cons.mpr ⟨?_, List.nil_prefix⟩
      cases unit with
      | none => rfl
      | some c =>
        by_contra other
        obtain ⟨rest, back, ne, rfl, form⟩ := exists_rest_of_decodeFrom holds first
        obtain ⟨_, -, begun, -⟩ := holds
        exact whole ⟨front, c, read, rest, back, Ne.symm other, begun, ne, form, split, by
          rw [form, List.append_assoc, ← List.append_assoc front, ← split, List.nil_append]⟩

end ScriptSuite.Text
