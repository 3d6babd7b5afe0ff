import ScriptSuite.Proofs.Command.Comparing
import ScriptSuite.Proofs.Host.Copying
import ScriptSuite.Proofs.Text.ByteLines

/-!
What `unquote` does to a file.

It takes the mark from each line, or fails with the number of the first line that has none, and
then leaves the file alone (`unquoteOne_quoted`, `unquoteOne_bare`). But it reads the file as a
text, and writes that back, so that the bytes without the marks are left if and only if the file is
UTF-8 (`unquote_exact_iff`).
-/

namespace ScriptSuite.Files

open Handler Matching Text

variable {s t : Session} {name : String} {f : File} {data content line : Bytes}
  {before after lines : List Bytes} {number : Nat}

/-- The byte of the mark. -/
def quoteByte : UInt8 := 0x3E

theorem encodeChar_quoteMark : String.utf8EncodeChar quoteMark = [quoteByte] := by decide

/-- Each line starts with the mark. -/
def IsQuoted (data : Bytes) : Prop :=
  ∀ line ∈ byteLines data, line.head? = some quoteByte

instance : DecidablePred IsQuoted := fun data =>
  inferInstanceAs (Decidable (∀ line ∈ byteLines data, line.head? = some quoteByte))

/-- The first line without a mark has that number. -/
def FirstBare (data : Bytes) (number : Nat) : Prop :=
  ∃ before line after, byteLines data = before ++ line :: after ∧
    (∀ l ∈ before, l.head? = some quoteByte) ∧ line.head? ≠ some quoteByte ∧
    number = before.length + 1

/-- The bytes without the first one of each line. -/
def withoutMarks (data : Bytes) : Bytes :=
  ((byteLines data).map List.tail).flatten

/-- The bytes with the mark in front of each line. -/
def withMarks (content : Bytes) : Bytes :=
  ((byteLines content).map (quoteByte :: ·)).flatten

/-- The text for the line of that number, which has no mark. -/
def bareLine (name : String) (number : Nat) : String :=
  name ++ ":" ++ toString number ++ ": line not quoted with '>'"

/-- What `unquote` is for, file by file: the file has its bytes without the marks, or the first
line without a mark is told, and nothing has been done. -/
structure UnquotesExactly (name : String) (data : Bytes) (s : Session) : Prop where
  quoted : IsQuoted data → ∃ h, (unquoteOne name).run s = .ok () { s with host := h } ∧
    h.read (s.resolve name) = .ok (withoutMarks data)
  bare : ¬ IsQuoted data → ∃ number, FirstBare data number ∧
    (unquoteOne name).run s = .error (.error (.failed (bareLine name number))) s

/-! ### Marks -/

/-- Either all lines are quoted or there is a first one that is not. -/
theorem isQuoted_or_firstBare (data : Bytes) : IsQuoted data ∨ ∃ number, FirstBare data number := by
  cases found : (byteLines data).find? fun line => line.head? != some quoteByte with
  | none =>
    refine .inl fun line mem => ?_
    simpa using List.find?_eq_none.mp found line mem
  | some line =>
    obtain ⟨bare, before, after, split, marked⟩ := List.find?_eq_some_iff_append.mp found
    refine .inr ⟨_, before, line, after, split, ?_, bne_iff_ne.mp bare, rfl⟩
    exact fun l mem => by simpa using marked l mem

theorem byteLines_withMarks (content : Bytes) :
    byteLines (withMarks content) = (byteLines content).map (quoteByte :: ·) := by
  have other : feedByte ≠ quoteByte := by decide
  rw [withMarks]
  induction content using byteLines_induction with
  | nil => rfl
  | last line ne clear =>
    rw [byteLines_of_not_mem ne clear, List.map_singleton, List.flatten_singleton]
    exact byteLines_of_not_mem (List.cons_ne_nil _ _)
      (List.not_mem_cons_of_ne_of_not_mem other clear)
  | cons front rest clear ih =>
    rw [byteLines_append_feed clear, List.map_cons, List.flatten_cons, ← List.cons_append,
      List.append_assoc, List.singleton_append,
      byteLines_append_feed (List.not_mem_cons_of_ne_of_not_mem other clear), ih]

/-- Whatever has got marks is quoted. -/
theorem isQuoted_withMarks (content : Bytes) : IsQuoted (withMarks content) := by
  rw [IsQuoted, byteLines_withMarks, List.forall_mem_map]
  exact fun _ _ => rfl

/-- Taking the marks away undoes putting them in front of each line. -/
theorem withoutMarks_withMarks (content : Bytes) : withoutMarks (withMarks content) = content := by
  rw [withoutMarks, byteLines_withMarks, List.map_map]
  exact (congrArg _ (List.map_id _)).trans (flatten_byteLines content)

/-- Without the marks, all lines but the last still have a line feed at their end. -/
theorem closed_withoutMarks (quoted : IsQuoted data) :
    ∀ line ∈ ((byteLines data).map List.tail).dropLast, ∃ front, line = front ++ [feedByte] := by
  rw [← List.map_dropLast, List.forall_mem_map]
  intro line mem
  obtain ⟨front, rfl⟩ := closed_byteLines data line mem
  have marked := quoted _ (List.dropLast_subset _ mem)
  cases front with
  | nil => exact absurd marked (by decide)
  | cons b front => exact ⟨front, rfl⟩

/-- Marks neither complete a character nor break one. -/
theorem isUtf8_withoutMarks (quoted : IsQuoted data) :
    IsUtf8 (withoutMarks data) ↔ IsUtf8 data := by
  have lines : IsUtf8 data ↔ ∀ line ∈ byteLines data, IsUtf8 line := by
    rw [← isUtf8_flatten_iff (closed_byteLines data), flatten_byteLines]
  rw [lines, withoutMarks, isUtf8_flatten_iff (closed_withoutMarks quoted), List.forall_mem_map]
  -- the mark is a character of its own, and makes no difference to its line
  refine forall₂_congr fun line mem => ?_
  obtain ⟨more, rfl⟩ := List.head?_eq_some_iff.mp (quoted line mem)
  exact (isUtf8_cons_iff encodeChar_quoteMark).symm

/-! ### The lines of a text -/

theorem unquoteLines_cons (number : Nat) (text : List Char) (rest : List (List Char)) :
    unquoteLines number (text :: rest) =
      if text.head? = some quoteMark then
        (unquoteLines (number + 1) rest).map (text.tail ++ ·)
      else .error number := by
  rw [unquoteLines.eq_def]
  cases text with
  | nil => rfl
  | cons c cs => simp

/-- The mark of a line of bytes is the one of the text that it is read as. -/
theorem head?_decodeLossy_quoteMark (line : Bytes) :
    (decodeLossy line).head? = some quoteMark ↔ line.head? = some quoteByte :=
  head?_decodeLossy_iff encodeChar_quoteMark (by decide) line

theorem tail_decodeLossy (marked : line.head? = some quoteByte) :
    (decodeLossy line).tail = decodeLossy line.tail := by
  obtain ⟨more, rfl⟩ := List.head?_eq_some_iff.mp marked
  rw [decodeLossy_cons encodeChar_quoteMark]
  rfl

/-- Where all lines are quoted, reading them leniently and taking off the marks may change
places. -/
theorem unquoteLines_of_quoted (marked : ∀ line ∈ lines, line.head? = some quoteByte) :
    unquoteLines number (lines.map decodeLossy) =
      .ok ((lines.map List.tail).map decodeLossy).flatten := by
  induction lines generalizing number with
  | nil => rfl
  | cons line rest ih =>
    obtain ⟨first, marked⟩ := List.forall_mem_cons.mp marked
    rw [List.map_cons, unquoteLines_cons, if_pos ((head?_decodeLossy_quoteMark line).mpr first),
      ih marked, tail_decodeLossy first]
    rfl

/-- The number that is answered is that of the first line without a mark, whatever follows it. -/
theorem unquoteLines_of_bare (marked : ∀ l ∈ before, l.head? = some quoteByte)
    (bare : line.head? ≠ some quoteByte) :
    unquoteLines number ((before ++ line :: after).map decodeLossy) =
      .error (number + before.length) := by
  induction before generalizing number with
  | nil =>
    rw [List.nil_append, List.map_cons, unquoteLines_cons,
      if_neg ((head?_decodeLossy_quoteMark line).not.mpr bare)]
    rfl
  | cons first before ih =>
    obtain ⟨firstMarked, marked⟩ := List.forall_mem_cons.mp marked
    rw [List.cons_append, List.map_cons, unquoteLines_cons,
      if_pos ((head?_decodeLossy_quoteMark first).mpr firstMarked), ih marked, List.length_cons,
      Nat.add_right_comm, Nat.add_assoc]
    rfl

/-- It is determined which line is told. -/
theorem FirstBare.unique {other : Nat} (h : FirstBare data number) (h' : FirstBare data other) :
    number = other := by
  obtain ⟨before, line, after, split, marked, bare, rfl⟩ := h
  obtain ⟨before', line', after', split', marked', bare', rfl⟩ := h'
  have first : unquoteLines 1 ((before ++ line :: after).map decodeLossy) = _ :=
    unquoteLines_of_bare marked bare
  have second : unquoteLines 1 ((before' ++ line' :: after').map decodeLossy) = _ :=
    unquoteLines_of_bare marked' bare'
  rw [← split] at first
  rw [← split', first, Except.error.injEq] at second
  omega

/-! ### One file -/

/-- The lines of a file as a text are those of its bytes, each read on its own. -/
theorem splitLines_stringOf (data : Bytes) :
    splitLines (stringOf data).toList = (byteLines data).map decodeLossy := by
  rw [stringOf, String.toList_ofList, splitLines_decodeLossy]

/-- The marks are taken from the text that the file is read as. -/
theorem unquoteOne_quoted (file : Session.isOutputName name = false)
    (denotes : s.host.node (s.resolve name) = .ok (.file f)) (plain : f.isDevice = false)
    (quoted : IsQuoted f.data) :
    ∃ h, (unquoteOne name).run s = .ok () { s with host := h } ∧
      s.host.SameBut (· = (s.resolve name).landing s.host.folder) h ∧
      h.read (s.resolve name) = .ok (encode (decodeLossy (withoutMarks f.data))) := by
  have unquoted : unquoteLines 1 (splitLines (stringOf f.data).toList) =
      .ok (decodeLossy (withoutMarks f.data)) := by
    rw [splitLines_stringOf, unquoteLines_of_quoted quoted, withoutMarks,
      decodeLossy_flatten (closed_withoutMarks quoted)]
  obtain ⟨h, written, same, holds⟩ :=
    Host.write_of_node denotes plain (encode (decodeLossy (withoutMarks f.data)))
  have resolved : (resolve name).run s = .ok (s.resolve name) s := rfl
  have stores : (tryHost hostFault fun h =>
      h.write (s.resolve name) (encode (decodeLossy (withoutMarks f.data)))).run s =
        .ok () { s with host := h } :=
    tryHost_of_ok written
  refine ⟨h, ?_, same, holds⟩
  rw [unquoteOne, run_bind_of_ok (textOfFile_run file (Host.read_of_node denotes))]
  simp only [unquoted]
  rw [run_bind_of_ok resolved]
  exact stores

/-- The first line without a mark is told, and nothing has been done. -/
theorem unquoteOne_bare (file : Session.isOutputName name = false)
    (denotes : s.host.node (s.resolve name) = .ok (.file f)) (bare : FirstBare f.data number) :
    (unquoteOne name).run s = .error (.error (.failed (bareLine name number))) s := by
  obtain ⟨before, line, after, split, marked, unmarked, rfl⟩ := bare
  have refused : unquoteLines 1 (splitLines (stringOf f.data).toList) =
      .error (before.length + 1) := by
    rw [splitLines_stringOf, split, unquoteLines_of_bare marked unmarked, Nat.add_comm]
  rw [unquoteOne, run_bind_of_ok (textOfFile_run file (Host.read_of_node denotes))]
  simp only [refused]
  rfl

/-! ### All files -/

theorem each_append (f : α → Handler Unit) {before : List α}
    (came : (each f before).run s = .ok () t) (rest : List α) :
    (each f (before ++ rest)).run s = (each f rest).run t := by
  induction before generalizing s with
  | nil =>
    cases came
    rfl
  | cons a before ih =>
    rw [each] at came
    rw [List.cons_append, each]
    cases first : (f a).run s with
    | error e u =>
      rw [run_bind_of_error first] at came
      cases came
    | ok _ u =>
      rw [run_bind_of_ok first] at came ⊢
      exact ih came

/-- The files before it are done when `unquote` comes to a file, and those after it are done only if
it does not fail there. -/
theorem unquote_run {negated : Bool} {before : List String}
    (came : (each unquoteOne before).run s = .ok () t) (name : String) (after : List String) :
    (unquote negated (before ++ name :: after)).run s =
      (unquoteOne name >>= fun _ => each unquoteOne after).run t := by
  have some : (!(before ++ name :: after).isEmpty) = true := by cases before <;> rfl
  rw [unquote, some, ← each, ← each_append unquoteOne came]
  rfl

/-- When `unquote` comes to a file whose lines all have the mark, it takes the marks from the text
that the file is read as; otherwise it fails with the first line without a mark, and leaves
everything as it is. So it is exact if and only if a file with marks is UTF-8, and undoes the marks
in front of the lines of a content if and only if that is UTF-8. -/
theorem unquote_exact_iff {negated : Bool} {before after : List String}
    (came : (each unquoteOne before).run s = .ok () t) (file : Session.isOutputName name = false)
    (denotes : t.host.node (t.resolve name) = .ok (.file f)) (plain : f.isDevice = false) :
    (IsQuoted f.data → ∃ h, (unquoteOne name).run t = .ok () { t with host := h } ∧
      (unquote negated (before ++ name :: after)).run s =
        (each unquoteOne after).run { t with host := h } ∧
      t.host.SameBut (· = (t.resolve name).landing t.host.folder) h ∧
      h.read (t.resolve name) = .ok (encode (decodeLossy (withoutMarks f.data)))) ∧
    (¬ IsQuoted f.data → ∃ number, FirstBare f.data number ∧
      (unquote negated (before ++ name :: after)).run s =
        .error (.error (.failed (bareLine name number))) t) ∧
    (UnquotesExactly name f.data t ↔ (IsQuoted f.data → IsUtf8 f.data)) ∧
    (∀ content, f.data = withMarks content →
      ((∃ h, (unquoteOne name).run t = .ok () { t with host := h } ∧
        h.read (t.resolve name) = .ok content) ↔ IsUtf8 content)) := by
  have bare : ¬ IsQuoted f.data → ∃ number, FirstBare f.data number ∧
      (unquoteOne name).run t = .error (.error (.failed (bareLine name number))) t := by
    intro unquoted
    obtain ⟨number, first⟩ := (isQuoted_or_firstBare f.data).resolve_left unquoted
    exact ⟨number, first, unquoteOne_bare file denotes first⟩
  have exact_ : IsQuoted f.data → ((∃ h, (unquoteOne name).run t = .ok () { t with host := h } ∧
      h.read (t.resolve name) = .ok (withoutMarks f.data)) ↔ IsUtf8 f.data) := by
    intro quoted
    obtain ⟨h, ran, -, holds⟩ := unquoteOne_quoted file denotes plain quoted
    rw [← isUtf8_withoutMarks quoted, ← encode_decodeLossy_iff]
    constructor
    · rintro ⟨h', ran', holds'⟩
      cases ran.symm.trans ran'
      exact Except.ok.inj (holds.symm.trans holds')
    · intro same
      exact ⟨h, ran, same ▸ holds⟩
  refine ⟨?_, ?_, ?_, ?_⟩
  · intro quoted
    obtain ⟨h, ran, same, holds⟩ := unquoteOne_quoted file denotes plain quoted
    exact ⟨h, ran, by rw [unquote_run came, run_bind_of_ok ran], same, holds⟩
  · intro unquoted
    obtain ⟨number, first, failed⟩ := bare unquoted
    exact ⟨number, first, by rw [unquote_run came, run_bind_of_error failed]⟩
  · constructor
    · exact fun exactly quoted => (exact_ quoted).mp (exactly.quoted quoted)
    · exact fun utf8 => ⟨fun quoted => (exact_ quoted).mpr (utf8 quoted), bare⟩
  · intro content marked
    have quoted : IsQuoted f.data := marked ▸ isQuoted_withMarks content
    have undone := exact_ quoted
    rw [← isUtf8_withoutMarks quoted, marked, withoutMarks_withMarks] at undone
    exact undone

/-- All lines of the first file have the mark, and the second line of the second has none. -/
def markedFiles : Listing :=
  .file ['a'] ⟨Text.bytesOf ">x\n>é", 0o644, false⟩
    (.file ['b'] ⟨Text.bytesOf ">y\nbare\n>z\n", 0o644, false⟩
      (.file ['c'] ⟨Text.bytesOf ">w\n", 0o644, false⟩ .empty))

/-- The first file is without its marks when `unquote` fails at the second. -/
theorem unquote_exact_iff_marked :
    ∃ t, (each unquoteOne ["a"]).run (Session.ofFiles markedFiles) = .ok () t ∧
      t.host.read (t.resolve "a") = .ok (Text.bytesOf "x\né") ∧
      UnquotesExactly "b" (Text.bytesOf ">y\nbare\n>z\n") t ∧
      (unquote false ["a", "b", "c"]).run (Session.ofFiles markedFiles) =
        .error (.error (.failed (bareLine "b" 2))) t := by
  have came : (each unquoteOne []).run (Session.ofFiles markedFiles) =
      .ok () (Session.ofFiles markedFiles) := rfl
  have denotes : (Session.ofFiles markedFiles).host.node
      ((Session.ofFiles markedFiles).resolve "a") =
        .ok (.file ⟨Text.bytesOf ">x\n>é", 0o644, false⟩) := by
    decide +kernel
  have utf8 : IsUtf8 (Text.bytesOf "x\né") := ⟨"x\né".toList, rfl⟩
  obtain ⟨-, -, -, undone⟩ :=
    @unquote_exact_iff _ _ "a" _ false _ ["b", "c"] came (by decide) denotes rfl
  obtain ⟨h, ran, holds⟩ := (undone _ (by decide +kernel)).mpr utf8
  have next : (each unquoteOne ["a"]).run (Session.ofFiles markedFiles) =
      .ok () { Session.ofFiles markedFiles with host := h } :=
    run_bind_of_ok ran
  have found : (match (unquoteOne "a").run (Session.ofFiles markedFiles) with
      | .ok _ t => decide (t.host.node (t.resolve "b") =
          .ok (.file ⟨Text.bytesOf ">y\nbare\n>z\n", 0o644, false⟩))
      | .error _ _ => false) = true := by
    decide +kernel
  rw [ran] at found
  obtain ⟨-, stops, exactly, -⟩ :=
    @unquote_exact_iff _ _ "b" _ false _ ["c"] next (by decide) (of_decide_eq_true found) rfl
  have unquoted : ¬ IsQuoted (Text.bytesOf ">y\nbare\n>z\n") := by decide +kernel
  obtain ⟨number, first, failed⟩ := stops unquoted
  have second : number = 2 := FirstBare.unique first
    ⟨[Text.bytesOf ">y\n"], Text.bytesOf "bare\n", [Text.bytesOf ">z\n"], by decide +kernel⟩
  exact ⟨_, next, holds, exactly.mpr fun quoted => absurd quoted unquoted, second ▸ failed⟩

/-- A line that is not UTF-8. -/
def malformedFile : Listing :=
  .file ['a'] ⟨[0x3E, 0xFF, 0x0A], 0o644, false⟩ .empty

/-- A byte that begins no character is replaced by a mark of three bytes. -/
theorem not_unquotesExactly_malformed :
    (Session.ofFiles malformedFile).host.read ((Session.ofFiles malformedFile).resolve "a") =
        .ok [0x3E, 0xFF, 0x0A] ∧
      IsQuoted [0x3E, 0xFF, 0x0A] ∧
      ¬ UnquotesExactly "a" [0x3E, 0xFF, 0x0A] (Session.ofFiles malformedFile) := by
  have denotes : (Session.ofFiles malformedFile).host.node
      ((Session.ofFiles malformedFile).resolve "a") =
        .ok (.file ⟨[0x3E, 0xFF, 0x0A], 0o644, false⟩) := by
    decide +kernel
  have quoted : IsQuoted [0x3E, 0xFF, 0x0A] := by decide
  refine ⟨Host.read_of_node denotes, quoted, ?_⟩
  intro exactly
  obtain ⟨h, ran, holds⟩ := exactly.quoted quoted
  obtain ⟨h', ran', -, holds'⟩ := unquoteOne_quoted (by decide) denotes rfl quoted
  cases ran.symm.trans ran'
  rw [holds', Except.ok.injEq] at holds
  exact absurd holds (by decide)

end ScriptSuite.Files
