import ScriptSuite.Proofs.Script.Separator
import ScriptSuite.Proofs.Script.Word
import ScriptSuite.Script.Parser

/-!
How instructions are written.

Every instruction can be written as a line: its conditions in brackets, its mark, its name, and
its arguments in quotes, with single blanks between them. The line is read as that instruction
alone (`parse_written`), and its arguments are the texts between the quotes, whatever characters
they hold (`parse_quoted`).
-/

namespace ScriptSuite

open Text

namespace Text

theorem trim_eq_self {c d : Char} {cs : List Char} (first : cs.head? = some c)
    (hc : isBlank c = false) (last : cs.getLast? = some d) (hd : isBlank d = false) :
    trim cs = cs := by
  obtain ⟨rest, rfl⟩ := List.head?_eq_some_iff.mp first
  have start : trimStart (c :: rest) = c :: rest := by
    rw [trimStart, List.dropWhile_cons_of_neg (by simp [hc])]
  obtain ⟨front, split⟩ := List.getLast?_eq_some_iff.mp last
  rw [trim, start, split, trimEnd_concat front hd]

theorem trim_of_noBlank {cs : List Char} (h : ∀ c ∈ cs, isBlank c = false) : trim cs = cs := by
  cases cs with
  | nil => rfl
  | cons c cs =>
    have last := List.getLast?_eq_some_getLast (List.cons_ne_nil c cs)
    exact trim_eq_self rfl (h c List.mem_cons_self) last (h _ (List.getLast_mem _))

/-- A line that is not empty is the only raw line of its text. -/
theorem splitLines_line {text : List Char} (ending : Ending) (ne : text ≠ [])
    (noFeed : '\n' ∉ text) : splitLines (text ++ ending.chars) = [text ++ ending.chars] := by
  refine splitLines_eq_iff.mpr ⟨?_, List.flatten_singleton⟩
  cases ending with
  | bare => exact .last (by simpa [Ending.chars] using ne) (by simpa [Ending.chars] using noFeed)
  | lineFeed => exact .cons ⟨text, noFeed, rfl⟩ .nil
  | returnFeed =>
    refine .cons ⟨text ++ ['\r'], ?_, by simp [Ending.chars]⟩ .nil
    simp [noFeed]

end Text

/-! ### Conditions and marks -/

namespace Condition

/-- A condition in brackets. -/
def written (c : Condition) : List Char :=
  '[' :: (if c.negated then ['!'] else []) ++ c.tag.toList ++ [']']

/-- A tag can be written if it is not empty, has no blank and no bracket that closes it, and
does not begin with the mark of negation. -/
structure Writable (c : Condition) : Prop where
  ne : c.tag.toList ≠ []
  noBlank : ∀ d ∈ c.tag.toList, isBlank d = false
  noBracket : ']' ∉ c.tag.toList
  noMark : c.tag.toList.head? ≠ some '!'

instance (c : Condition) : Decidable c.Writable :=
  decidable_of_iff (c.tag.toList ≠ [] ∧ c.tag.toList.all (fun d => !isBlank d) = true ∧
    ']' ∉ c.tag.toList ∧ c.tag.toList.head? ≠ some '!') <| by
      simp only [List.all_eq_true, Bool.not_eq_true']
      exact ⟨fun ⟨ne, noBlank, noBracket, noMark⟩ => ⟨ne, noBlank, noBracket, noMark⟩,
        fun h => ⟨h.ne, h.noBlank, h.noBracket, h.noMark⟩⟩

/-- What stands between the brackets is read as the condition. -/
theorem ofInner_written {c : Condition} (h : c.Writable) :
    ofInner ((if c.negated then ['!'] else []) ++ c.tag.toList) = .ok c := by
  obtain ⟨negated, tag⟩ := c
  have tagTrimmed := trim_of_noBlank h.noBlank
  have legal : (tag.toList.isEmpty || tag.toList.any isBlank) = false := by
    rw [Bool.or_eq_false_iff, List.isEmpty_eq_false_iff, List.any_eq_false]
    exact ⟨h.ne, fun d mem => by simp [h.noBlank d mem]⟩
  cases negated with
  | true =>
    have trimmed : trim ('!' :: tag.toList) = '!' :: tag.toList :=
      trim_of_noBlank (List.forall_mem_cons.mpr ⟨by decide, h.noBlank⟩)
    simp only [ofInner, if_true, List.singleton_append, trimmed, tagTrimmed, legal]
    simp
  | false =>
    simp only [Bool.false_eq_true, if_false, List.nil_append, ofInner, tagTrimmed]
    split
    · next rest marked => exact absurd (congrArg List.head? marked) h.noMark
    · simp [legal]

/-- A bracket is closed by the next bracket that closes one. -/
theorem takeFrom_inside {cs : List Char} (noBracket : ']' ∉ cs) (taken rest : List Char) :
    takeFrom (some taken) (cs ++ ']' :: rest) =
      match ofInner (taken.reverse ++ cs) with
      | .error fault => .error fault
      | .ok c => (takeFrom none rest).map fun (more, rest) => (c :: more, rest) := by
  induction cs generalizing taken with
  | nil =>
    rw [List.nil_append, List.append_nil, takeFrom]
    exact if_pos rfl
  | cons c cs ih =>
    obtain ⟨different, noBracket⟩ := not_or.mp (List.mem_cons.not.mp noBracket)
    rw [List.cons_append, takeFrom, if_neg (Ne.symm different), ih noBracket, List.reverse_cons,
      List.append_assoc]
    rfl

/-- Conditions are read off the front of a line, with a blank after each. -/
theorem takeFrom_written {conditions : List Condition} (h : ∀ c ∈ conditions, c.Writable)
    (rest : List Char) :
    takeFrom none (conditions.flatMap (fun c => c.written ++ [' ']) ++ rest) =
      (takeFrom none rest).map fun found => (conditions ++ found.1, found.2) := by
  induction conditions with
  | nil =>
    rw [List.flatMap_nil, List.nil_append]
    cases takeFrom none rest <;> rfl
  | cons c conditions ih =>
    obtain ⟨writable, h⟩ := List.forall_mem_cons.mp h
    have noBracket : ']' ∉ (if c.negated then ['!'] else []) ++ c.tag.toList := by
      rw [List.mem_append, not_or]
      refine ⟨?_, writable.noBracket⟩
      split <;> decide
    have inside := takeFrom_inside noBracket []
      (' ' :: (conditions.flatMap (fun c => c.written ++ [' ']) ++ rest))
    rw [List.reverse_nil, List.nil_append, ofInner_written writable] at inside
    have blank : isBlank ' ' = true := by decide
    simp only [List.flatMap_cons, written, List.cons_append, List.append_assoc,
      List.nil_append] at inside ih ⊢
    rw [takeFrom, if_pos rfl, inside, takeFrom, if_neg (by decide), if_pos blank, ih h]
    cases takeFrom none rest <;> rfl

/-- A line that starts with neither a bracket nor a blank has no conditions. -/
theorem takeFrom_of_head {c : Char} {cs : List Char} (notBracket : c ≠ '[')
    (notBlank : isBlank c = false) : takeFrom none (c :: cs) = .ok ([], c :: cs) := by
  rw [takeFrom, if_neg notBracket, if_neg (by simp [notBlank])]

theorem feed_not_mem_written {c : Condition} (h : c.Writable) : '\n' ∉ c.written := by
  have tag : '\n' ∉ c.tag.toList := fun mem => absurd (h.noBlank _ mem) (by decide)
  rw [written]
  split <;> simp [tag]

end Condition

namespace Expectation

/-- The mark of an expectation, if it has one, with a blank after it. -/
def written (e : Expectation) : List Char :=
  match e.mark? with
  | some mark => [mark, ' ']
  | none => []

/-- The mark is read off the front of the command. -/
theorem takeMark_written {c : Char} (cs : List Char) (e : Expectation)
    (notBlank : isBlank c = false) (notFailure : c ≠ '!') (notEither : c ≠ '?') :
    takeMark (e.written ++ c :: cs) = (e, c :: cs) := by
  have trimmed : trimStart (' ' :: c :: cs) = c :: cs := by
    have blank : isBlank ' ' = true := by decide
    rw [trimStart, List.dropWhile_cons_of_pos blank,
      List.dropWhile_cons_of_neg (by simp [notBlank])]
  cases e with
  | success => simp [written, mark?, takeMark, notFailure, notEither]
  | failure => simp only [written, mark?, List.cons_append, List.nil_append, takeMark, trimmed]
  | either => simp only [written, mark?, List.cons_append, List.nil_append, takeMark, trimmed]

end Expectation

/-! ### Lines -/

namespace Instruction

/-- The line that an instruction is written as. -/
def written (conditions : List Condition) (expectation : Expectation) (name : List Char)
    (arguments : List (List Char)) : List Char :=
  conditions.flatMap (fun c => c.written ++ [' ']) ++
    (expectation.written ++ (name ++ Word.spaced arguments))

/-- What a command may be named. -/
structure IsName (cs : List Char) : Prop where
  ne : cs ≠ []
  alphanumeric : ∀ c ∈ cs, c.isAlphanum = true

instance (cs : List Char) : Decidable (IsName cs) :=
  decidable_of_iff (cs ≠ [] ∧ cs.all Char.isAlphanum = true) <| by
    rw [List.all_eq_true]
    exact ⟨fun ⟨ne, alphanumeric⟩ => ⟨ne, alphanumeric⟩, fun h => ⟨h.ne, h.alphanumeric⟩⟩

/-- A letter or digit is neither a blank nor a sign with a meaning of its own. -/
theorem isPlain_of_isAlphanum {c : Char} (h : c.isAlphanum = true) :
    Word.IsPlain c ∧ ∀ d ∈ ['[', '!', '?', '#', '-'], c ≠ d := by
  have range : (48 ≤ c.toNat ∧ c.toNat ≤ 57) ∨ (65 ≤ c.toNat ∧ c.toNat ≤ 90) ∨
      (97 ≤ c.toNat ∧ c.toNat ≤ 122) := by
    rcases Bool.or_eq_true_iff.mp h with letter | digit
    · rcases Bool.or_eq_true_iff.mp letter with upper | lower
      · exact .inr (.inl (of_decide_eq_true upper))
      · obtain ⟨low, high⟩ := Bool.and_eq_true_iff.mp lower
        exact .inr (.inr ⟨of_decide_eq_true low, of_decide_eq_true high⟩)
    · obtain ⟨low, high⟩ := Bool.and_eq_true_iff.mp digit
      exact .inl ⟨of_decide_eq_true low, of_decide_eq_true high⟩
  have other {d : Char} (outside : ¬((48 ≤ d.toNat ∧ d.toNat ≤ 57) ∨
      (65 ≤ d.toNat ∧ d.toNat ≤ 90) ∨ (97 ≤ d.toNat ∧ d.toNat ≤ 122))) : c ≠ d :=
    fun same => outside (same ▸ range)
  refine ⟨⟨?_, ?_⟩, ?_⟩
  · simp only [isBlank, Bool.or_eq_false_iff, Bool.and_eq_false_iff, decide_eq_false_iff_not]
    omega
  · rw [Word.quote?, if_neg (other (by decide)), if_neg (other (by decide))]
  · intro d mem
    simp only [List.mem_cons, List.not_mem_nil, or_false] at mem
    rcases mem with rfl | rfl | rfl | rfl | rfl <;> exact other (by decide)

section

variable {conditions : List Condition} (expectation : Expectation) {name : List Char}
  {arguments : List (List Char)} {words : List Word}

/-- The first character of a line is neither a blank nor the sign of a comment or of a separator. -/
theorem head?_written (conditions : List Condition) (arguments : List (List Char))
    (isName : IsName name) :
    ∃ c, (written conditions expectation name arguments).head? = some c ∧ isBlank c = false ∧
      c ≠ '#' ∧ c ≠ '-' := by
  cases conditions with
  | cons condition conditions => exact ⟨'[', rfl, by decide, by decide, by decide⟩
  | nil =>
    cases expectation with
    | failure => exact ⟨'!', rfl, by decide, by decide, by decide⟩
    | either => exact ⟨'?', rfl, by decide, by decide, by decide⟩
    | success =>
      obtain ⟨c, cs, rfl⟩ := List.exists_cons_of_ne_nil isName.ne
      obtain ⟨⟨notBlank, -⟩, other⟩ :=
        isPlain_of_isAlphanum (isName.alphanumeric c List.mem_cons_self)
      exact ⟨c, rfl, notBlank, other _ (by decide), other _ (by decide)⟩

theorem getLast?_written (conditions : List Condition) (isName : IsName name)
    (writes : List.Forall₂ Word.Writes arguments words) :
    ∃ c, (written conditions expectation name arguments).getLast? = some c ∧
      isBlank c = false := by
  have plain : ∀ c ∈ name, Word.IsPlain c := fun c mem =>
    (isPlain_of_isAlphanum (isName.alphanumeric c mem)).1
  obtain ⟨c, last, notBlank⟩ :=
    Word.exists_getLast?_spaced (Word.writes_bare isName.ne plain).last writes
  exact ⟨c, by simp [written, List.getLast?_append, last], notBlank⟩

/-- An instruction is written on one line. -/
theorem feed_not_mem_written (writable : ∀ c ∈ conditions, c.Writable) (isName : IsName name)
    (writes : List.Forall₂ Word.Writes arguments words) :
    '\n' ∉ written conditions expectation name arguments := by
  have plain : ∀ c ∈ name, Word.IsPlain c := fun c mem =>
    (isPlain_of_isAlphanum (isName.alphanumeric c mem)).1
  simp only [written, List.mem_append, List.mem_flatMap, not_or, not_exists, not_and]
  refine ⟨?_, ?_, (Word.writes_bare isName.ne plain).noFeed, Word.feed_not_mem_spaced writes⟩
  · intro c mem
    exact ⟨Condition.feed_not_mem_written (writable c mem), by decide⟩
  · cases expectation <;> decide

/-- The line of an instruction is read as that instruction. -/
theorem ofLine_written (number : Nat) (writable : ∀ c ∈ conditions, c.Writable)
    (isName : IsName name) (writes : List.Forall₂ Word.Writes arguments words) :
    ofLine number (written conditions expectation name arguments) =
      .ok ⟨number, String.ofList (written conditions expectation name arguments), conditions,
        expectation, String.ofList name, words⟩ := by
  obtain ⟨first, head, firstNotBlank, -, -⟩ :=
    head?_written expectation conditions arguments isName
  obtain ⟨last, getLast, lastNotBlank⟩ :=
    getLast?_written expectation conditions isName writes
  have trimmed := trim_eq_self head firstNotBlank getLast lastNotBlank
  obtain ⟨c, cs, rfl⟩ := List.exists_cons_of_ne_nil isName.ne
  obtain ⟨⟨notBlank, -⟩, other⟩ :=
    isPlain_of_isAlphanum (isName.alphanumeric c List.mem_cons_self)
  have plain : ∀ d ∈ c :: cs, Word.IsPlain d := fun d mem =>
    (isPlain_of_isAlphanum (isName.alphanumeric d mem)).1
  have afterConditions : Condition.takeFrom none
      (expectation.written ++ (c :: cs ++ Word.spaced arguments)) =
        .ok ([], expectation.written ++ (c :: cs ++ Word.spaced arguments)) := by
    cases expectation with
    | success => exact Condition.takeFrom_of_head (other _ (by decide)) notBlank
    | failure => exact Condition.takeFrom_of_head (by decide) (by decide)
    | either => exact Condition.takeFrom_of_head (by decide) (by decide)
  have taken : Condition.takeFrom none (written conditions expectation (c :: cs) arguments) =
      .ok (conditions, expectation.written ++ (c :: cs ++ Word.spaced arguments)) := by
    rw [written, Condition.takeFrom_written writable, afterConditions]
    simp [Except.map]
  have marked := Expectation.takeMark_written (cs ++ Word.spaced arguments) expectation notBlank
    (other _ (by decide)) (other _ (by decide))
  have split := Word.splitWords_spaced (Word.writes_bare (List.cons_ne_nil c cs) plain) writes
  have chars : (Word.ofQuoted .double (c :: cs)).chars = c :: cs := by
    simp [Word.ofQuoted, Word.Quote.piece, Word.chars, Piece.chars]
  rw [List.cons_append] at split taken
  rw [ofLine, trimmed, taken]
  simp only [marked, split, Word.raw, chars]
  rfl

/-- The line of an instruction is a script of that instruction alone, whatever ends it. -/
theorem parse_written (writable : ∀ c ∈ conditions, c.Writable) (isName : IsName name)
    (writes : List.Forall₂ Word.Writes arguments words) (ending : Ending) :
    Script.parse (String.ofList (written conditions expectation name arguments ++ ending.chars)) =
      .ok ⟨[⟨1, String.ofList (written conditions expectation name arguments), conditions,
        expectation, String.ofList name, words⟩], [],
        String.ofList (written conditions expectation name arguments ++ ending.chars)⟩ := by
  obtain ⟨c, head, notBlank, notComment, notDash⟩ :=
    head?_written expectation conditions arguments isName
  obtain ⟨last, getLast, lastNotBlank⟩ :=
    getLast?_written expectation conditions isName writes
  have noFeed := feed_not_mem_written expectation writable isName writes
  have reads := ofLine_written expectation 1 writable isName writes
  generalize written conditions expectation name arguments = line at *
  obtain ⟨rest, rfl⟩ := List.head?_eq_some_iff.mp head
  have trimmed := trim_eq_self head notBlank getLast lastNotBlank
  have ended : splitEnding (c :: rest ++ ending.chars) = (c :: rest, ending) := by
    refine splitEnding_append_chars noFeed ?_
    rintro - feed
    rw [getLast, Option.some.injEq] at feed
    subst feed
    exact absurd lastNotBlank (by decide)
  have absent : Separator.ofLine (c :: rest) = .absent := by
    obtain ⟨front, eq⟩ := List.getLast?_eq_some_iff.mp getLast
    have kept : trimEnd (c :: rest) = c :: rest := by rw [eq, trimEnd_concat front lastNotBlank]
    have noLead : dropLead? Separator.opening (c :: rest) = none := by
      rw [Separator.opening, dropLead?, if_neg (Ne.symm notDash)]
    simp only [Separator.ofLine, kept, noLead]
  have found : Script.readPreambleLine 1 (c :: rest) = (ofLine 1 (c :: rest)).map some := by
    rw [Script.readPreambleLine, trimmed]
    split
    · next empty => cases empty
    · next comment => exact absurd (List.cons.inj comment).1 notComment
    · next dashes => exact absurd (List.cons.inj dashes).1 notDash
    · rfl
  rw [Script.parse, String.toList_ofList, splitLines_line ending (List.cons_ne_nil _ _) noFeed]
  simp only [Script.readLines, ended, absent, found, reads]
  simp [Except.map]

/-- Every instruction can be written: a line of conditions, a mark, a name, and arguments in
quotes is a script of that instruction alone, and its arguments are the texts between the
quotes. What stands in single quotes is the argument whatever the variables are; in double quotes
a dollar sign is written as the reference that stands for it. -/
theorem parse_quoted {command : String} {texts : List (Word.Quote × String)}
    (writable : ∀ c ∈ conditions, c.Writable) (isName : IsName command.toList)
    (clean : ∀ a ∈ texts, '\n' ∉ a.2.toList ∧ a.1.mark ∉ a.2.toList) (ending : Ending) :
    ∃ s inst, Script.parse (String.ofList (written conditions expectation command.toList
        (texts.map fun a => a.1.written a.2.toList) ++ ending.chars)) = .ok s ∧
      s.instructions = [inst] ∧ s.files = [] ∧ inst.conditions = conditions ∧
      inst.expectation = expectation ∧ inst.name = command ∧
      (∀ session, (Session.expandAll inst.arguments).run session =
        (texts.map Prod.snd, session)) ∧
      ((∀ a ∈ texts, a.1 = .single) →
        ∀ {m : Type → Type} [Monad m] [LawfulMonad m] (lookup : String → m (Option String)),
          inst.arguments.mapM (Word.expand lookup) = pure (texts.map Prod.snd)) := by
  have writes := Word.forall₂_writes clean
  refine ⟨_, _, parse_written expectation writable isName writes ending, rfl, rfl, rfl, rfl,
    String.ofList_toList, ?_, ?_⟩
  · intro session
    exact Session.run_expandAll_quoted texts session
  · intro single m _ _ lookup
    have words : (texts.map fun a => Word.ofQuoted a.1 (a.1.inner a.2.toList)) =
        (texts.map Prod.snd).map fun text => Word.ofQuoted .single text.toList := by
      rw [List.map_map]
      refine List.map_congr_left fun a mem => ?_
      rw [single a mem]
      rfl
    rw [words]
    exact Word.mapM_expand_single lookup _

theorem parse_quoted_signs :
    ∃ s inst, Script.parse
        "[!linux] [a[b] ? show1 '$x # [ -- \" \r' '' \"$\x7b$\x7d'$\x7b$\x7d\"\n" = .ok s ∧
      s.instructions = [inst] ∧ inst.conditions = [⟨true, "linux"⟩, ⟨false, "a[b"⟩] ∧
      inst.expectation = .either ∧ inst.name = "show1" ∧
      ∀ session, (Session.expandAll inst.arguments).run session =
        (["$x # [ -- \" \r", "", "$'$"], session) := by
  have linux : Condition.Writable ⟨true, "linux"⟩ := by decide
  have bracket : Condition.Writable ⟨false, "a[b"⟩ := by decide
  have writable : ∀ c ∈ [(⟨true, "linux"⟩ : Condition), ⟨false, "a[b"⟩], c.Writable :=
    List.forall_mem_cons.mpr ⟨linux, List.forall_mem_singleton.mpr bracket⟩
  have isName : IsName "show1".toList := by decide
  have clean : ∀ a ∈ [(Word.Quote.single, "$x # [ -- \" \r"), (.single, ""), (.double, "$'$")],
      '\n' ∉ a.2.toList ∧ a.1.mark ∉ a.2.toList := by decide
  obtain ⟨s, inst, reads, one, -, tags, expected, named, expands, -⟩ :=
    parse_quoted .either writable isName clean .lineFeed
  exact ⟨s, inst, reads, one, tags, expected, named, expands⟩

end

end Instruction

end ScriptSuite
