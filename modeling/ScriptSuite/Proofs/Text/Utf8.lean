import Mathlib.Data.List.Basic
import ScriptSuite.Proofs.Text.Lines
import ScriptSuite.Text.Utf8

/-!
Reading what has been written in UTF-8.

Lenient reading gives back every text from its UTF-8 form (`decodeLossy_encode`), and a
reading without gaps can only be that of such a form (`eq_encode_of_decodeUnits`). Which
bytes have been read of a sequence that is not complete is not kept in `Pending`; `Holds`
says what it knows of them.
-/

namespace ScriptSuite.Text

/-! ### The UTF-8 form of a character -/

theorem toNat_charOfNat {n : Nat} (h : n.isValidChar) : (Char.ofNat n).val.toNat = n := by
  have : (Char.ofNat n).toNat = n := by
    rw [Char.ofNat, dif_pos h]
    rfl
  exact this

/-- A byte that is written as a number below 256 is that number. -/
theorem ofNat_eq_byte {b : UInt8} {n : Nat} (h : n = b.toNat) : UInt8.ofNat n = b := by
  subst h
  exact UInt8.ofNat_toNat

theorem encodeChar_one {a : UInt8} (ha : a.toNat < 0x80) :
    String.utf8EncodeChar (Char.ofNat a.toNat) = [a] := by
  have valid : a.toNat.isValidChar := .inl (by omega)
  unfold String.utf8EncodeChar
  simp only [toNat_charOfNat valid]
  rw [if_pos (by omega), ofNat_eq_byte rfl]

theorem encodeChar_two {a b : UInt8} {n : Nat} (ha : 0xC2 ≤ a.toNat ∧ a.toNat ≤ 0xDF)
    (hb : 0x80 ≤ b.toNat ∧ b.toNat ≤ 0xBF)
    (hn : n = (a.toNat - 0xC0) * 64 + (b.toNat - 0x80)) :
    String.utf8EncodeChar (Char.ofNat n) = [a, b] := by
  have valid : n.isValidChar := .inl (by omega)
  unfold String.utf8EncodeChar
  simp only [toNat_charOfNat valid]
  rw [if_neg (by omega), if_pos (by omega), ofNat_eq_byte (b := a) (by omega),
    ofNat_eq_byte (b := b) (by omega)]

theorem encodeChar_three {a b c : UInt8} {n : Nat} (ha : 0xE0 ≤ a.toNat ∧ a.toNat ≤ 0xEF)
    (hb : 0x80 ≤ b.toNat ∧ b.toNat ≤ 0xBF) (hc : 0x80 ≤ c.toNat ∧ c.toNat ≤ 0xBF)
    (hn : n = ((a.toNat - 0xE0) * 64 + (b.toNat - 0x80)) * 64 + (c.toNat - 0x80))
    (hlow : 0x800 ≤ n) (valid : n.isValidChar) :
    String.utf8EncodeChar (Char.ofNat n) = [a, b, c] := by
  unfold String.utf8EncodeChar
  simp only [toNat_charOfNat valid]
  rw [if_neg (by omega), if_neg (by omega), if_pos (by omega), ofNat_eq_byte (b := a) (by omega),
    ofNat_eq_byte (b := b) (by omega), ofNat_eq_byte (b := c) (by omega)]

theorem encodeChar_four {a b c d : UInt8} {n : Nat} (ha : 0xF0 ≤ a.toNat ∧ a.toNat ≤ 0xF4)
    (hb : 0x80 ≤ b.toNat ∧ b.toNat ≤ 0xBF) (hc : 0x80 ≤ c.toNat ∧ c.toNat ≤ 0xBF)
    (hd : 0x80 ≤ d.toNat ∧ d.toNat ≤ 0xBF)
    (hn : n = (((a.toNat - 0xF0) * 64 + (b.toNat - 0x80)) * 64 + (c.toNat - 0x80)) * 64
      + (d.toNat - 0x80))
    (hlow : 0x10000 ≤ n) (valid : n.isValidChar) :
    String.utf8EncodeChar (Char.ofNat n) = [a, b, c, d] := by
  unfold String.utf8EncodeChar
  simp only [toNat_charOfNat valid]
  rw [if_neg (by omega), if_neg (by omega), if_neg (by omega), ofNat_eq_byte (b := a) (by omega),
    ofNat_eq_byte (b := b) (by omega), ofNat_eq_byte (b := c) (by omega),
    ofNat_eq_byte (b := d) (by omega)]

/-! ### What a pending sequence knows of the bytes that have been read -/

/-- Whatever `missing + 1` bytes follow the bytes that have been read, the first of them in
the given range: together they are the UTF-8 form of the character whose number results. -/
def Extends (read : Bytes) (value low high : Nat) : (missing : Nat) → Prop
  | 0 => ∀ b : UInt8, low ≤ b.toNat ∧ b.toNat ≤ high →
    String.utf8EncodeChar (Char.ofNat (value * 64 + (b.toNat - 0x80))) = read ++ [b]
  | missing + 1 => ∀ b : UInt8, low ≤ b.toNat ∧ b.toNat ≤ high →
    Extends (read ++ [b]) (value * 64 + (b.toNat - 0x80)) 0x80 0xBF missing

/-- The bytes that have been read of a sequence that is not complete. -/
def Holds (read : Bytes) : Pending → Prop
  | .idle => read = []
  | .within value missing low high =>
    ∃ more, missing = more + 1 ∧ read ≠ [] ∧ 0x80 ≤ low ∧ Extends read value low high more

theorem holds_idle : Holds [] .idle := rfl

/-- What a byte does to the bytes that have been read: it completes a character, it goes on
with the sequence, or it starts anew after a gap. -/
inductive Advance (b : UInt8) : Bytes → List (Option Char) → Pending → Prop where
  | char {read : Bytes} {c : Char} : String.utf8EncodeChar c = read ++ [b] →
      Advance b read [some c] .idle
  | more {read : Bytes} {p : Pending} : p ≠ .idle → Holds (read ++ [b]) p → Advance b read [] p
  | gap : Advance b [] [none] .idle
  | anew {read : Bytes} {units : List (Option Char)} {p : Pending} : read ≠ [] →
      Advance b [] units p → Advance b read (none :: units) p

theorem leadByte_two {b : UInt8} (h : 0xC2 ≤ b.toNat ∧ b.toNat ≤ 0xDF) :
    leadByte b = ([], .within (b.toNat - 0xC0) 1 0x80 0xBF) := by
  unfold leadByte
  rw [if_neg (by omega), if_pos (by simpa using h)]

theorem leadByte_three {b : UInt8} (h : 0xE0 ≤ b.toNat ∧ b.toNat ≤ 0xEF) :
    leadByte b = ([], .within (b.toNat - 0xE0) 2 (if b.toNat = 0xE0 then 0xA0 else 0x80)
      (if b.toNat = 0xED then 0x9F else 0xBF)) := by
  unfold leadByte
  rw [if_neg (by omega), if_neg (by simp; omega)]
  by_cases h0 : b.toNat = 0xE0
  · simp [h0]
  · by_cases h1 : b.toNat = 0xED
    · simp [h1]
    · simp [h0, h1]
      omega

theorem leadByte_four {b : UInt8} (h : 0xF0 ≤ b.toNat ∧ b.toNat ≤ 0xF4) :
    leadByte b = ([], .within (b.toNat - 0xF0) 3 (if b.toNat = 0xF0 then 0x90 else 0x80)
      (if b.toNat = 0xF4 then 0x8F else 0xBF)) := by
  unfold leadByte
  rw [if_neg (by omega), if_neg (by simp; omega), if_neg (by omega), if_neg (by omega),
    if_neg (by simp; omega)]
  by_cases h0 : b.toNat = 0xF0
  · simp [h0]
  · by_cases h1 : b.toNat = 0xF4
    · simp [h1]
    · simp [h0, h1]
      omega

/-- A byte that stands at the start of no sequence is a gap. -/
theorem leadByte_gap {b : UInt8} (h : 0x80 ≤ b.toNat)
    (out : b.toNat < 0xC2 ∨ 0xF4 < b.toNat) : leadByte b = ([none], .idle) := by
  unfold leadByte
  rw [if_neg (by omega), if_neg (by simp; omega), if_neg (by omega), if_neg (by omega),
    if_neg (by simp; omega), if_neg (by omega), if_neg (by simp; omega), if_neg (by omega)]

theorem advance_leadByte (b : UInt8) : Advance b [] (leadByte b).1 (leadByte b).2 := by
  by_cases one : b.toNat < 0x80
  · rw [leadByte, if_pos one]
    exact .char (encodeChar_one one)
  by_cases two : 0xC2 ≤ b.toNat ∧ b.toNat ≤ 0xDF
  · rw [leadByte_two two]
    exact .more (by simp) ⟨0, rfl, by simp, by simp, fun c hc => encodeChar_two two hc rfl⟩
  by_cases three : 0xE0 ≤ b.toNat ∧ b.toNat ≤ 0xEF
  · rw [leadByte_three three]
    refine .more (by simp) ⟨1, rfl, by simp, by split <;> omega, fun c hc d hd => ?_⟩
    have range : 0x80 ≤ c.toNat ∧ c.toNat ≤ 0xBF := by split at hc <;> split at hc <;> omega
    refine encodeChar_three three range hd rfl ?_ ?_
    · split at hc <;> omega
    · unfold Nat.isValidChar
      split at hc <;> split at hc <;> omega
  by_cases four : 0xF0 ≤ b.toNat ∧ b.toNat ≤ 0xF4
  · rw [leadByte_four four]
    refine .more (by simp) ⟨2, rfl, by simp, by split <;> omega, fun c hc d hd e he => ?_⟩
    have range : 0x80 ≤ c.toNat ∧ c.toNat ≤ 0xBF := by split at hc <;> split at hc <;> omega
    refine encodeChar_four four range hd he rfl ?_ (.inr ⟨?_, ?_⟩)
    · split at hc <;> omega
    · split at hc <;> omega
    · split at hc <;> split at hc <;> omega
  · rw [leadByte_gap (by omega) (by omega)]
    exact .gap

/-- One byte more keeps the account of what has been read and what is pending. -/
theorem advance_nextByte {read : Bytes} {p : Pending} (h : Holds read p) (b : UInt8) :
    Advance b read (nextByte p b).1 (nextByte p b).2 := by
  cases p with
  | idle =>
    cases h
    exact advance_leadByte b
  | within value missing low high =>
    obtain ⟨more, rfl, ne, -, extends_⟩ := h
    unfold nextByte
    dsimp only
    split
    · next range =>
      simp only [Bool.and_eq_true, decide_eq_true_eq] at range
      cases more with
      | zero => exact .char (extends_ b range)
      | succ more =>
        rw [if_neg (by omega)]
        exact .more (by simp) ⟨more, by omega, by simp, by simp, extends_ b range⟩
    · exact .anew ne (advance_leadByte b)

theorem Advance.exists_holds {read : Bytes} {b : UInt8} {units : List (Option Char)}
    {p : Pending} (h : Advance b read units p) : ∃ read', Holds read' p := by
  induction h with
  | char _ => exact ⟨[], holds_idle⟩
  | more _ holds => exact ⟨_, holds⟩
  | gap => exact ⟨[], holds_idle⟩
  | anew _ _ ih => exact ih

/-! ### Reading -/

theorem decodeFrom_cons (p : Pending) (b : UInt8) (bs : Bytes) :
    decodeFrom p (b :: bs) = (nextByte p b).1 ++ decodeFrom (nextByte p b).2 bs := by
  cases p <;> rfl

/-- A reading without gaps is that of the UTF-8 form of its characters, the bytes that were
read before included. -/
theorem append_eq_encode_of_decodeFrom {read : Bytes} {p : Pending} {bs : Bytes}
    {cs : List Char} (h : Holds read p) (reads : decodeFrom p bs = cs.map some) :
    read ++ bs = encode cs := by
  induction bs generalizing read p cs with
  | nil =>
    cases p with
    | idle =>
      cases h
      have : cs = [] := by simpa [decodeFrom] using reads
      simp [this, encode]
    | within _ _ _ _ =>
      cases cs with
      | nil => simp [decodeFrom] at reads
      | cons c cs => simp [decodeFrom] at reads
  | cons b bs ih =>
    rw [decodeFrom_cons] at reads
    have advance := advance_nextByte h b
    generalize nextByte p b = next at reads advance
    obtain ⟨units, q⟩ := next
    cases advance with
    | @char _ c form =>
      cases cs with
      | nil => simp at reads
      | cons d ds =>
        simp only [List.singleton_append, List.map_cons, List.cons.injEq, Option.some.injEq]
          at reads
        obtain ⟨rfl, reads⟩ := reads
        have rest : bs = encode ds := ih holds_idle reads
        rw [rest, encode, encode, List.flatMap_cons, form, List.append_assoc,
          List.singleton_append]
    | more _ holds =>
      rw [← ih holds reads, List.append_assoc, List.singleton_append]
    | gap => cases cs <;> simp at reads
    | anew _ _ => cases cs <;> simp at reads

/-- Bytes that are read without gaps are the UTF-8 form of what they are read as. -/
theorem eq_encode_of_decodeUnits {bs : Bytes} {cs : List Char}
    (h : decodeUnits bs = cs.map some) : bs = encode cs :=
  append_eq_encode_of_decodeFrom holds_idle h

theorem nextByte_last {value low high : Nat} {b : UInt8}
    (h : low ≤ b.toNat ∧ b.toNat ≤ high) :
    nextByte (.within value 1 low high) b
      = ([some (Char.ofNat (value * 64 + (b.toNat - 0x80)))], .idle) := by
  simp [nextByte, h]

theorem nextByte_more {value more low high : Nat} {b : UInt8}
    (h : low ≤ b.toNat ∧ b.toNat ≤ high) :
    nextByte (.within value (more + 2) low high) b
      = ([], .within (value * 64 + (b.toNat - 0x80)) (more + 1) 0x80 0xBF) := by
  simp [nextByte, h]

theorem byte_toNat {n : Nat} (h : n < 256) : (UInt8.ofNat n).toNat = n := by
  simp [Nat.mod_eq_of_lt h]

/-- The form of a character is read as that character, whatever follows. -/
theorem decodeFrom_encodeChar_append (c : Char) (bs : Bytes) :
    decodeFrom .idle (String.utf8EncodeChar c ++ bs) = some c :: decodeFrom .idle bs := by
  have hc : Char.ofNat c.val.toNat = c := Char.ofNat_toNat c
  have valid : c.val.toNat.isValidChar := c.valid
  unfold String.utf8EncodeChar
  generalize c.val.toNat = v at hc valid
  unfold Nat.isValidChar at valid
  dsimp only
  split
  · next h =>
    have ha := byte_toNat (n := v) (by omega)
    simp only [List.cons_append, List.nil_append, decodeFrom_cons, nextByte, leadByte, ha]
    rw [if_pos (by omega), hc]
    rfl
  split
  · next h1 h2 =>
    have ha := byte_toNat (n := v / 64 % 32 + 0xC0) (by omega)
    have hb := byte_toNat (n := v % 64 + 0x80) (by omega)
    simp only [List.cons_append, List.nil_append, decodeFrom_cons]
    rw [show nextByte .idle _ = _ from leadByte_two (by omega), nextByte_last (by omega), ha, hb,
      show (v / 64 % 32 + 0xC0 - 0xC0) * 64 + (v % 64 + 0x80 - 0x80) = v by omega, hc]
    rfl
  split
  · next h1 h2 h3 =>
    have ha := byte_toNat (n := v / 4096 % 16 + 0xE0) (by omega)
    have hb := byte_toNat (n := v / 64 % 64 + 0x80) (by omega)
    have hd := byte_toNat (n := v % 64 + 0x80) (by omega)
    simp only [List.cons_append, List.nil_append, decodeFrom_cons]
    rw [show nextByte .idle _ = _ from leadByte_three (by omega),
      nextByte_more (by split <;> split <;> omega), nextByte_last (by omega), ha, hb, hd,
      show ((v / 4096 % 16 + 0xE0 - 0xE0) * 64 + (v / 64 % 64 + 0x80 - 0x80)) * 64
        + (v % 64 + 0x80 - 0x80) = v by omega, hc]
    rfl
  · next h1 h2 h3 =>
    have ha := byte_toNat (n := v / 262144 % 8 + 0xF0) (by omega)
    have hb := byte_toNat (n := v / 4096 % 64 + 0x80) (by omega)
    have hd := byte_toNat (n := v / 64 % 64 + 0x80) (by omega)
    have he := byte_toNat (n := v % 64 + 0x80) (by omega)
    simp only [List.cons_append, List.nil_append, decodeFrom_cons]
    rw [show nextByte .idle _ = _ from leadByte_four (by omega),
      nextByte_more (by split <;> split <;> omega), nextByte_more (by omega),
      nextByte_last (by omega), ha, hb, hd, he,
      show (((v / 262144 % 8 + 0xF0 - 0xF0) * 64 + (v / 4096 % 64 + 0x80 - 0x80)) * 64
        + (v / 64 % 64 + 0x80 - 0x80)) * 64 + (v % 64 + 0x80 - 0x80) = v by omega, hc]
    rfl

@[simp] theorem decodeUnits_encode (cs : List Char) : decodeUnits (encode cs) = cs.map some := by
  induction cs with
  | nil => rfl
  | cons c cs ih =>
    rw [encode, List.flatMap_cons, decodeUnits, decodeFrom_encodeChar_append, List.map_cons]
    exact congrArg _ ih

/-- Lenient reading gives a text back from its UTF-8 form. -/
@[simp] theorem decodeLossy_encode (cs : List Char) : decodeLossy (encode cs) = cs := by
  simp [decodeLossy, Function.comp_def]

/-- Different texts have different bytes. -/
theorem encode_injective {cs ds : List Char} (h : encode cs = encode ds) : cs = ds := by
  rw [← decodeLossy_encode cs, h, decodeLossy_encode]

/-- Units are all characters if and only if none of them is a gap. -/
theorem mapM_id_eq_some_iff {units : List (Option Char)} {cs : List Char} :
    units.mapM id = some cs ↔ units = cs.map some := by
  induction units generalizing cs with
  | nil => cases cs <;> simp
  | cons unit units ih =>
    cases unit with
    | none => cases cs <;> simp
    | some c =>
      have step : (some c :: units).mapM id = (units.mapM id).map (c :: ·) := by
        rw [List.mapM_cons]
        cases units.mapM id <;> rfl
      rw [step, Option.map_eq_some_iff]
      simp only [ih]
      cases cs <;> simp [and_comm]

/-- Strict reading is the inverse of writing. -/
theorem decode?_eq_some_iff {bs : Bytes} {cs : List Char} :
    decode? bs = some cs ↔ bs = encode cs := by
  rw [decode?, mapM_id_eq_some_iff]
  constructor
  · exact eq_encode_of_decodeUnits
  · rintro rfl
    exact decodeUnits_encode cs

@[simp] theorem encode_append (cs ds : List Char) : encode (cs ++ ds) = encode cs ++ encode ds :=
  List.flatMap_append

@[simp] theorem encode_eq_nil {cs : List Char} : encode cs = [] ↔ cs = [] := by
  constructor
  · intro h
    exact encode_injective (h.trans rfl)
  · rintro rfl
    rfl

/-- A text starts with a dot if its first byte is that of one. -/
theorem head?_encode_eq_dot {cs : List Char} :
    (encode cs).head? = some 0x2E ↔ cs.head? = some '.' := by
  constructor
  · intro first
    obtain ⟨rest, whole⟩ := List.head?_eq_some_iff.mp first
    have units := decodeUnits_encode cs
    rw [whole, decodeUnits, decodeFrom_cons] at units
    cases cs with
    | nil => cases units
    | cons c cs => exact (List.cons.inj units).1.symm
  · intro first
    obtain ⟨rest, rfl⟩ := List.head?_eq_some_iff.mp first
    rfl

/-! ### Where a sequence starts -/

/-- The byte does not continue a sequence. -/
def Opens (b : UInt8) : Prop :=
  b.toNat < 0x80 ∨ 0xC0 ≤ b.toNat

/-- Of the UTF-8 form of a character, the first byte and no other is one that can stand at the
start of a sequence. -/
theorem encodeChar_cases (c : Char) : ∃ lead tail,
    String.utf8EncodeChar c = lead :: tail ∧ Opens lead ∧ ∀ b ∈ tail, ¬Opens b := by
  have leads {n : Nat} (low : 0xC0 ≤ n) (high : n < 256) : Opens (UInt8.ofNat n) := by
    rw [Opens, byte_toNat high]
    exact .inr low
  have continues (ns : List Nat) :
      ∀ b ∈ ns.map fun n => UInt8.ofNat (n % 64 + 0x80), ¬Opens b := by
    intro b mem
    obtain ⟨n, -, rfl⟩ := List.mem_map.mp mem
    rw [Opens, byte_toNat (by omega)]
    omega
  unfold String.utf8EncodeChar
  generalize c.val.toNat = v
  dsimp only
  split
  · refine ⟨_, _, rfl, .inl ?_, continues []⟩
    rw [byte_toNat (by omega)]
    omega
  split
  · exact ⟨_, _, rfl, leads (by omega) (by omega), continues [v]⟩
  split
  · exact ⟨_, _, rfl, leads (by omega) (by omega), continues [v / 64, v]⟩
  · exact ⟨_, _, rfl, leads (by omega) (by omega), continues [v / 4096, v / 64, v]⟩

/-- Whatever byte goes on with a sequence, there is a character whose UTF-8 form goes on so. -/
theorem Extends.exists_char {read : Bytes} {value low high missing : Nat}
    (h : Extends read value low high missing) {b : UInt8} (range : low ≤ b.toNat ∧ b.toNat ≤ high) :
    ∃ c tail, String.utf8EncodeChar c = read ++ b :: tail := by
  induction missing generalizing read value low high b with
  | zero => exact ⟨_, [], h b range⟩
  | succ missing ih =>
    obtain ⟨c, tail, form⟩ := ih (h b range) (b := 0x80) (by decide)
    exact ⟨c, 0x80 :: tail, by rw [form, List.append_assoc, List.singleton_append]⟩

/-- A byte that can stand at the start of a sequence never goes on with one. -/
theorem Holds.not_range_of_opens {read : Bytes} {value missing low high : Nat}
    (h : Holds read (.within value missing low high)) {b : UInt8} (opens : Opens b) :
    ¬(low ≤ b.toNat ∧ b.toNat ≤ high) := by
  intro range
  obtain ⟨more, rfl, ne, -, extends_⟩ := h
  obtain ⟨c, tail, form⟩ := extends_.exists_char range
  obtain ⟨lead, rest, shape, -, continues⟩ := encodeChar_cases c
  obtain ⟨first, others, rfl⟩ := List.exists_cons_of_ne_nil ne
  obtain ⟨-, rfl⟩ := List.cons.inj (shape.symm.trans form)
  exact continues b (List.mem_append_right _ List.mem_cons_self) opens

/-- From a byte on that can stand at the start of a sequence, bytes are read as if nothing had
been in front of them. -/
theorem decodeFrom_append_of_opens {read : Bytes} {p : Pending} (h : Holds read p) {b : UInt8}
    (opens : Opens b) (bs rest : Bytes) :
    decodeFrom p (bs ++ b :: rest) = decodeFrom p bs ++ decodeFrom .idle (b :: rest) := by
  induction bs generalizing read p with
  | nil =>
    cases p with
    | idle => rfl
    | within value missing low high =>
      have out := h.not_range_of_opens opens
      rw [List.nil_append, decodeFrom_cons, nextByte, if_neg (by simpa using out), decodeFrom_cons]
      rfl
  | cons a bs ih =>
    obtain ⟨read', holds⟩ := (advance_nextByte h a).exists_holds
    rw [List.cons_append, decodeFrom_cons, decodeFrom_cons, ih holds, List.append_assoc]

/-! ### A line feed at the end -/

/-- The byte of a line feed. -/
def feedByte : UInt8 := 0x0A

theorem encode_feed : encode ['\n'] = [feedByte] := by decide

/-- Adds a line feed to bytes that are not empty and do not end with one. -/
def normalizeBytes (bs : Bytes) : Bytes :=
  if bs.isEmpty || bs.getLast? == some feedByte then bs else bs ++ [feedByte]

theorem decodeFrom_ne_nil {read : Bytes} {p : Pending} (holds : Holds read p) {bs : Bytes}
    (h : p ≠ .idle ∨ bs ≠ []) : decodeFrom p bs ≠ [] := by
  induction bs generalizing read p with
  | nil =>
    cases p with
    | idle => simp at h
    | within _ _ _ _ => simp [decodeFrom]
  | cons b bs ih =>
    rw [decodeFrom_cons]
    have advance := advance_nextByte holds b
    generalize nextByte p b = next at advance
    obtain ⟨units, q⟩ := next
    cases advance with
    | char _ => simp
    | more pending holds => simpa using ih holds (.inl pending)
    | gap => simp
    | anew _ _ => simp

/-- A line feed never belongs to a sequence, and what follows it is read from the start. -/
theorem decodeFrom_append_feed {read : Bytes} {p : Pending} (h : Holds read p) (bs rest : Bytes) :
    decodeFrom p (bs ++ feedByte :: rest) =
      decodeFrom p bs ++ some '\n' :: decodeFrom .idle rest :=
  decodeFrom_append_of_opens h (.inl (by decide)) bs rest

/-- Only the byte of a line feed is read as one. -/
theorem Advance.getLast?_ne {read : Bytes} {b : UInt8} {units : List (Option Char)}
    {p : Pending} (h : Advance b read units p) (hb : b ≠ feedByte) :
    (units ++ decodeFrom p []).getLast? ≠ some (some '\n') := by
  induction h with
  | @char read c form =>
    have other : c ≠ '\n' := by
      rintro rfl
      have last := congrArg List.getLast? form
      rw [List.getLast?_concat] at last
      exact hb (Option.some.inj last).symm
    simpa [decodeFrom] using other
  | @more read p pending _ =>
    cases p with
    | idle => contradiction
    | within _ _ _ _ => simp [decodeFrom]
  | gap => simp [decodeFrom]
  | @anew read units p _ _ ih =>
    rw [List.cons_append, List.getLast?_cons]
    cases last : (units ++ decodeFrom p []).getLast? with
    | none => simp
    | some unit => simpa [last] using ih

theorem getLast?_decodeFrom_ne {read : Bytes} {p : Pending} (h : Holds read p) (bs : Bytes)
    {b : UInt8} (hb : b ≠ feedByte) :
    (decodeFrom p (bs ++ [b])).getLast? ≠ some (some '\n') := by
  induction bs generalizing read p with
  | nil =>
    rw [List.nil_append, decodeFrom_cons]
    exact (advance_nextByte h b).getLast?_ne hb
  | cons a bs ih =>
    obtain ⟨read', holds⟩ := (advance_nextByte h a).exists_holds
    rw [List.cons_append, decodeFrom_cons,
      List.getLast?_append_of_ne_nil _ (decodeFrom_ne_nil holds (.inr (by simp)))]
    exact ih holds

theorem decodeLossy_eq_nil {bs : Bytes} : decodeLossy bs = [] ↔ bs = [] := by
  constructor
  · intro h
    by_contra ne
    exact decodeFrom_ne_nil holds_idle (.inr ne) (List.map_eq_nil_iff.mp h)
  · rintro rfl
    rfl

theorem decodeLossy_append_feed (bs : Bytes) :
    decodeLossy (bs ++ [feedByte]) = decodeLossy bs ++ ['\n'] := by
  rw [decodeLossy, decodeUnits, decodeFrom_append_feed holds_idle bs [], List.map_append]
  rfl

/-- Bytes are read as a text with a line feed at its end if and only if they have one. -/
theorem endsWithFeed_decodeLossy (front : Bytes) (b : UInt8) :
    endsWithFeed (decodeLossy (front ++ [b])) = true ↔ b = feedByte := by
  constructor
  · intro closed
    by_contra hb
    rw [endsWithFeed, decodeLossy, List.getLast?_map, beq_iff_eq] at closed
    obtain ⟨unit, hunit, eq⟩ := Option.map_eq_some_iff.mp closed
    cases unit with
    | none => exact absurd eq (by decide)
    | some c =>
      exact getLast?_decodeFrom_ne holds_idle front hb (hunit.trans (congrArg _ (congrArg _ eq)))
  · rintro rfl
    rw [decodeLossy_append_feed]
    simp [endsWithFeed]

/-- Adding a missing line feed at the end of bytes or of the text that they are read as is the
same. -/
theorem decodeLossy_normalizeBytes (bs : Bytes) :
    decodeLossy (normalizeBytes bs) = normalize (decodeLossy bs) := by
  rcases List.eq_nil_or_concat' bs with rfl | ⟨front, b, rfl⟩
  · rfl
  · by_cases hb : b = feedByte
    · rw [normalize_eq_self (.inr ((endsWithFeed_decodeLossy front b).mpr hb)), normalizeBytes,
        if_pos (by simp [hb])]
    · have ne : decodeLossy (front ++ [b]) ≠ [] := fun nil => by
        simp [decodeLossy_eq_nil] at nil
      have notClosed : endsWithFeed (decodeLossy (front ++ [b])) = false := by
        rw [← Bool.not_eq_true, endsWithFeed_decodeLossy]
        exact hb
      rw [normalize_eq_append ne notClosed, normalizeBytes, if_neg (by simp [hb]),
        decodeLossy_append_feed]

/-- Adding a missing line feed commutes with writing. -/
theorem encode_normalize (cs : List Char) : encode (normalize cs) = normalizeBytes (encode cs) := by
  rcases List.eq_nil_or_concat' (encode cs) with nil | ⟨front, b, eq⟩
  · rw [nil, encode_eq_nil.mp nil]
    rfl
  · have read := endsWithFeed_decodeLossy front b
    rw [← eq, decodeLossy_encode] at read
    by_cases hb : b = feedByte
    · rw [normalize_eq_self (.inr (read.mpr hb)), normalizeBytes, if_pos (by simp [eq, hb])]
    · have ne : cs ≠ [] := by
        rintro rfl
        simp [encode] at eq
      have notClosed : endsWithFeed cs = false := by
        rw [← Bool.not_eq_true, read]
        exact hb
      rw [normalize_eq_append ne notClosed, normalizeBytes, if_neg (by simp [eq, hb]),
        encode_append, encode_feed]

end ScriptSuite.Text
