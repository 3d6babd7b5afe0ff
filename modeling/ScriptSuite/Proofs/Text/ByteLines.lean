import Mathlib.Data.List.SplitBy
import ScriptSuite.Proofs.Text.Lines
import ScriptSuite.Proofs.Text.Utf8

/-!
Lines of bytes.

A line feed is a byte of its own in UTF-8, so that the lines of some bytes can be read one by one
(`decodeUnits_flatten`), and are the lines of the text that the bytes are read as
(`splitLines_decodeLossy`). Reading leniently and writing again gives the bytes back if and only if
they are UTF-8 (`encode_decodeLossy_iff`).
-/

namespace ScriptSuite.Text

variable {line front rest : Bytes} {lines : List Bytes}

/-- The lines of some bytes, each with its line feed; the last one may lack it. -/
def byteLines (bs : Bytes) : List Bytes :=
  bs.splitBy fun b _ => b != feedByte

/-- The lines of some bytes put together are those bytes. -/
theorem flatten_byteLines (bs : Bytes) : (byteLines bs).flatten = bs :=
  List.flatten_splitBy _ bs

/-- Before the last byte of a line there is no line feed. -/
theorem isChain_of_clear (clear : feedByte ∉ line) (tail : Bytes) (short : tail.length ≤ 1) :
    (line ++ tail).IsChain fun b _ => (b != feedByte) = true := by
  have differ : ∀ b ∈ line, (b != feedByte) = true := by
    intro b mem
    rw [bne_iff_ne]
    rintro rfl
    exact clear mem
  refine List.Pairwise.isChain (List.pairwise_append.mpr ⟨?_, ?_, fun b mem _ _ => differ b mem⟩)
  · exact List.pairwise_of_forall_mem_list fun b mem _ _ => differ b mem
  · match tail, short with
    | [], _ => exact .nil
    | [_], _ => exact List.pairwise_singleton _ _

theorem byteLines_of_not_mem (ne : line ≠ []) (clear : feedByte ∉ line) :
    byteLines line = [line] := by
  have chain := isChain_of_clear clear [] (Nat.zero_le _)
  rw [List.append_nil] at chain
  exact List.splitBy_of_isChain ne chain

theorem byteLines_append_feed (clear : feedByte ∉ front) (rest : Bytes) :
    byteLines (front ++ feedByte :: rest) = (front ++ [feedByte]) :: byteLines rest := by
  have alone : byteLines (front ++ [feedByte]) = [front ++ [feedByte]] :=
    List.splitBy_of_isChain (by simp) (isChain_of_clear clear [feedByte] (Nat.le_refl _))
  rw [List.append_cons, byteLines, List.splitBy_append, ← byteLines, alone]
  · rfl
  · simp

/-- Every list of bytes is empty, a line without a line feed, or a line with one and the rest. -/
@[elab_as_elim]
theorem byteLines_induction {motive : Bytes → Prop} (nil : motive [])
    (last : ∀ line, line ≠ [] → feedByte ∉ line → motive line)
    (cons : ∀ front rest, feedByte ∉ front → motive rest → motive (front ++ feedByte :: rest))
    (bs : Bytes) : motive bs := by
  induction size : bs.length using Nat.strong_induction_on generalizing bs with
  | _ n ih =>
    by_cases mem : feedByte ∈ bs
    · obtain ⟨front, rest, rfl, clear⟩ := List.eq_append_cons_of_mem mem
      have smaller : rest.length < n := by
        rw [← size, List.length_append, List.length_cons]
        omega
      exact cons front rest clear (ih _ smaller rest rfl)
    · by_cases empty : bs = []
      · exact empty ▸ nil
      · exact last bs empty mem

/-- All lines but the last have a line feed at their end. -/
theorem closed_byteLines (bs : Bytes) :
    ∀ line ∈ (byteLines bs).dropLast, ∃ front, line = front ++ [feedByte] := by
  induction bs using byteLines_induction with
  | nil => exact nofun
  | last line ne clear =>
    rw [byteLines_of_not_mem ne clear]
    exact nofun
  | cons front rest clear ih =>
    rw [byteLines_append_feed clear]
    cases lines : byteLines rest with
    | nil => exact nofun
    | cons next more =>
      rw [lines] at ih
      rw [List.dropLast_cons_cons]
      exact List.forall_mem_cons.mpr ⟨⟨front, rfl⟩, ih⟩

/-! ### Reading line by line -/

/-- A line feed is never part of another character, so that what stands before it and after it is
read on its own. -/
theorem decodeUnits_append_feed (front rest : Bytes) :
    decodeUnits (front ++ feedByte :: rest) = decodeUnits front ++ some '\n' :: decodeUnits rest :=
  decodeFrom_append_feed holds_idle front rest

/-- Lines are read one by one if all but the last have a line feed. -/
theorem decodeUnits_flatten
    (closed : ∀ line ∈ lines.dropLast, ∃ front, line = front ++ [feedByte]) :
    decodeUnits lines.flatten = lines.flatMap decodeUnits := by
  induction lines with
  | nil => rfl
  | cons line more ih =>
    cases more with
    | nil => simp
    | cons next more =>
      rw [List.dropLast_cons_cons] at closed
      obtain ⟨⟨front, rfl⟩, later⟩ := List.forall_mem_cons.mp closed
      rw [List.flatten_cons, List.flatMap_cons, ← ih later, List.append_assoc,
        List.singleton_append, decodeUnits_append_feed, decodeUnits_append_feed front []]
      simp [decodeUnits, decodeFrom]

theorem decodeLossy_flatten
    (closed : ∀ line ∈ lines.dropLast, ∃ front, line = front ++ [feedByte]) :
    decodeLossy lines.flatten = (lines.map decodeLossy).flatten := by
  rw [decodeLossy, decodeUnits_flatten closed, List.map_flatMap, List.flatMap_def]
  rfl

theorem Advance.not_mem {read : Bytes} {b : UInt8} {units : List (Option Char)} {p : Pending}
    (h : Advance b read units p) (other : b ≠ feedByte) : some '\n' ∉ units := by
  induction h with
  | @char read c form =>
    rw [List.mem_singleton, Option.some.injEq]
    rintro rfl
    have last := congrArg List.getLast? form
    rw [List.getLast?_concat] at last
    exact other (Option.some.inj last).symm
  | more _ _ => exact List.not_mem_nil
  | gap => simp
  | anew _ _ ih => simpa using ih

/-- Only a line feed is read as one. -/
theorem not_mem_decodeFrom {read : Bytes} {p : Pending} (h : Holds read p) {bs : Bytes}
    (clear : feedByte ∉ bs) : some '\n' ∉ decodeFrom p bs := by
  induction bs generalizing read p with
  | nil => cases p <;> simp [decodeFrom]
  | cons b bs ih =>
    obtain ⟨other, clear⟩ := not_or.mp (List.mem_cons.not.mp clear)
    have advance := advance_nextByte h b
    obtain ⟨read', holds⟩ := advance.exists_holds
    rw [decodeFrom_cons, List.mem_append, not_or]
    exact ⟨advance.not_mem (Ne.symm other), ih holds clear⟩

theorem not_mem_decodeLossy (clear : feedByte ∉ line) : '\n' ∉ decodeLossy line := by
  intro mem
  obtain ⟨unit, read, isFeed⟩ := List.mem_map.mp mem
  cases unit with
  | none => exact absurd isFeed (by decide)
  | some c =>
    obtain rfl : c = '\n' := isFeed
    exact not_mem_decodeFrom holds_idle clear read

/-- The lines of a text that is read leniently are read from those of its bytes. -/
theorem splitLines_decodeLossy (bs : Bytes) :
    splitLines (decodeLossy bs) = (byteLines bs).map decodeLossy := by
  induction bs using byteLines_induction with
  | nil => rfl
  | last line ne clear =>
    rw [byteLines_of_not_mem ne clear, List.map_singleton]
    exact splitLines_of_not_mem (decodeLossy_eq_nil.not.mpr ne) (not_mem_decodeLossy clear)
  | cons front rest clear ih =>
    have reads : decodeLossy (front ++ feedByte :: rest) =
        (decodeLossy front ++ ['\n']) ++ decodeLossy rest := by
      rw [decodeLossy, decodeUnits_append_feed]
      simp [decodeLossy]
    rw [reads, splitLines_closed_append ⟨_, not_mem_decodeLossy clear, rfl⟩,
      byteLines_append_feed clear, ih, List.map_cons, decodeLossy_append_feed]

/-! ### The first character of a line -/

/-- The bytes at the start complete the UTF-8 form of a character that is read first. -/
theorem exists_rest_of_decodeFrom {read bs : Bytes} {p : Pending} {c : Char}
    {units : List (Option Char)} (h : Holds read p) (reads : decodeFrom p bs = some c :: units) :
    ∃ rest back, rest ≠ [] ∧ bs = rest ++ back ∧ String.utf8EncodeChar c = read ++ rest := by
  induction bs generalizing read p with
  | nil => cases p <;> cases reads
  | cons b bs ih =>
    have advance := advance_nextByte h b
    rw [decodeFrom_cons] at reads
    generalize nextByte p b = next at reads advance
    obtain ⟨first, q⟩ := next
    cases advance with
    | char form =>
      cases reads
      exact ⟨[b], bs, List.cons_ne_nil _ _, rfl, form⟩
    | more _ holds =>
      obtain ⟨rest, back, -, rfl, form⟩ := ih holds reads
      exact ⟨b :: rest, back, List.cons_ne_nil _ _, rfl, by
        rw [form, List.append_assoc, List.singleton_append]⟩
    | gap => cases reads
    | anew _ _ => cases reads

/-- A byte may be the whole form of a character, as each of the first 128 is. -/
theorem decodeUnits_cons {b : UInt8} {c : Char} (form : String.utf8EncodeChar c = [b])
    (bs : Bytes) : decodeUnits (b :: bs) = some c :: decodeUnits bs := by
  have reads := decodeFrom_encodeChar_append c bs
  rwa [form, List.singleton_append] at reads

theorem decodeLossy_cons {b : UInt8} {c : Char} (form : String.utf8EncodeChar c = [b])
    (bs : Bytes) : decodeLossy (b :: bs) = c :: decodeLossy bs := by
  rw [decodeLossy, decodeUnits_cons form]
  rfl

/-- A text starts with an ASCII character if and only if its bytes do. -/
theorem head?_decodeLossy_iff {b : UInt8} {c : Char} (form : String.utf8EncodeChar c = [b])
    (mark : c ≠ replacement) (bs : Bytes) :
    (decodeLossy bs).head? = some c ↔ bs.head? = some b := by
  constructor
  · intro starts
    rw [decodeLossy, List.head?_map] at starts
    obtain ⟨unit, first, isMark⟩ := Option.map_eq_some_iff.mp starts
    cases unit with
    | none => exact absurd isMark.symm mark
    | some d =>
      obtain rfl : d = c := isMark
      obtain ⟨units, reads⟩ := List.head?_eq_some_iff.mp first
      obtain ⟨rest, back, -, rfl, whole⟩ := exists_rest_of_decodeFrom holds_idle reads
      rw [← List.nil_append rest, ← whole, form]
      rfl
  · intro starts
    obtain ⟨more, rfl⟩ := List.head?_eq_some_iff.mp starts
    rw [decodeLossy_cons form]
    rfl

/-! ### Bytes that are UTF-8 -/

/-- The bytes are the UTF-8 form of a text. -/
def IsUtf8 (bs : Bytes) : Prop :=
  ∃ cs, bs = encode cs

/-- Reading leniently and writing again gives back what is UTF-8, and nothing else. -/
theorem encode_decodeLossy_iff {bs : Bytes} : encode (decodeLossy bs) = bs ↔ IsUtf8 bs := by
  constructor
  · exact fun same => ⟨_, same.symm⟩
  · rintro ⟨cs, rfl⟩
    rw [decodeLossy_encode]

/-- Bytes are UTF-8 if and only if reading them leaves no gap. -/
theorem isUtf8_iff {bs : Bytes} : IsUtf8 bs ↔ none ∉ decodeUnits bs := by
  constructor
  · rintro ⟨cs, rfl⟩
    simp
  · intro whole
    refine ⟨decodeLossy bs, eq_encode_of_decodeUnits ?_⟩
    rw [decodeLossy, List.map_map]
    refine (List.map_id _).symm.trans (List.map_congr_left fun unit mem => ?_)
    cases unit with
    | none => exact absurd mem whole
    | some c => rfl

/-- Lines make up UTF-8 if and only if each of them is UTF-8. -/
theorem isUtf8_flatten_iff
    (closed : ∀ line ∈ lines.dropLast, ∃ front, line = front ++ [feedByte]) :
    IsUtf8 lines.flatten ↔ ∀ line ∈ lines, IsUtf8 line := by
  simp only [isUtf8_iff, decodeUnits_flatten closed, List.mem_flatMap, not_exists, not_and]

theorem isUtf8_cons_iff {b : UInt8} {c : Char} (form : String.utf8EncodeChar c = [b])
    {bs : Bytes} : IsUtf8 (b :: bs) ↔ IsUtf8 bs := by
  rw [isUtf8_iff, isUtf8_iff, decodeUnits_cons form, List.mem_cons, not_or]
  exact and_iff_right nofun

end ScriptSuite.Text
