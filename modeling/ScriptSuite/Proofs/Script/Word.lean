import Mathlib.Data.List.Forall2
import ScriptSuite.Proofs.Text.Trimming
import ScriptSuite.Script.Word
import ScriptSuite.Session.Basic

/-!
How words are written.

`Writes` says that a text is read as one word, wherever it stands in a line. A text in quotes of
either kind is written for itself (`writes_quoted`), and so is one without blanks and quotes
(`writes_bare`); texts with single blanks between them are then read as their words
(`splitWords_spaced`). What stands in single quotes is never substituted, and what stands in
double quotes is if its dollar signs are written as references (`run_expandAll_quoted`).
-/

namespace ScriptSuite

open Text

namespace Variable

/-- How a character is written that is to come out of a substitution. -/
def escapeChar (c : Char) : List Char :=
  if c = '$' then ['$', '{', '$', '}'] else [c]

/-- A text with a reference in place of each dollar sign. -/
def escape (cs : List Char) : List Char :=
  cs.flatMap escapeChar

/-- The part of a text that such a character is read as. -/
def Token.escaped (c : Char) : Token :=
  if c = '$' then .reference ['$'] else .char c

theorem tokens_escape (cs : List Char) : tokens (escape cs) = cs.map Token.escaped := by
  induction cs with
  | nil => rfl
  | cons c cs ih =>
    rw [tokens, escape] at ih
    rw [tokens, escape, List.flatMap_cons, List.map_cons, ← ih]
    by_cases dollar : c = '$'
    · subst dollar
      rfl
    · simp [escapeChar, Token.escaped, dollar, tokensFrom]

theorem mem_escape {d : Char} {cs : List Char} (h : d ∈ escape cs) :
    d ∈ cs ∨ d = '{' ∨ d = '}' := by
  obtain ⟨c, mem, written⟩ := List.mem_flatMap.mp h
  rw [escapeChar] at written
  split at written
  · next dollar =>
    simp only [List.mem_cons, List.not_mem_nil, or_false] at written
    rcases written with rfl | rfl | rfl | rfl
    · exact .inl (dollar ▸ mem)
    · exact .inr (.inl rfl)
    · exact .inl (dollar ▸ mem)
    · exact .inr (.inr rfl)
  · exact .inl (List.mem_singleton.mp written ▸ mem)

end Variable

namespace Word

/-! ### Texts in quotes -/

/-- The text in quotes. -/
def Quote.around (q : Quote) (cs : List Char) : List Char :=
  q.mark :: cs ++ [q.mark]

/-- How a text is written between quotes so that it is the argument. -/
def Quote.inner : Quote → List Char → List Char
  | .single, cs => cs
  | .double, cs => Variable.escape cs

/-- An argument in quotes. -/
def Quote.written (q : Quote) (cs : List Char) : List Char :=
  q.around (q.inner cs)

/-- The part of a word that a text between quotes is. -/
def Quote.piece : Quote → List Char → Piece
  | .single => .literal
  | .double => .subject

/-- The word that a text between quotes is read as. -/
def ofQuoted (q : Quote) (cs : List Char) : Word :=
  ⟨if cs = [] then [] else [q.piece cs]⟩

theorem cons_ofQuoted (q : Quote) (c : Char) (cs : List Char) :
    (ofQuoted q cs).cons (q == .single) c = ofQuoted q (c :: cs) := by
  cases cs <;> cases q <;> rfl

theorem quote?_mark (q : Quote) : quote? q.mark = some q := by
  cases q <;> rfl

/-- The text is read as the word wherever it stands in a line, if a new word begins after it. -/
structure Writes (cs : List Char) (w : Word) : Prop where
  reads : ∀ rest words, splitFrom none rest = .ok ⟨none, words⟩ →
    splitFrom none (cs ++ rest) = .ok ⟨some w, words⟩
  noFeed : '\n' ∉ cs
  last : ∃ c, cs.getLast? = some c ∧ isBlank c = false

/-- A text up to the closing quote is one part of the word. -/
theorem splitFrom_quoted {q : Quote} {cs rest : List Char} {words : List Word}
    (unquoted : q.mark ∉ cs) (h : splitFrom none rest = .ok ⟨none, words⟩) :
    ∃ front, splitFrom (some q) (cs ++ q.mark :: rest) = .ok ⟨front, words⟩ ∧
      front.getD blank = ofQuoted q cs := by
  induction cs with
  | nil =>
    refine ⟨none, ?_, rfl⟩
    rw [List.nil_append, splitFrom, if_pos rfl, h]
  | cons c cs ih =>
    obtain ⟨different, unquoted⟩ := not_or.mp (List.mem_cons.not.mp unquoted)
    obtain ⟨front, reads, word⟩ := ih unquoted
    refine ⟨some (ofQuoted q (c :: cs)), ?_, rfl⟩
    rw [List.cons_append, splitFrom, if_neg (Ne.symm different), reads, ← cons_ofQuoted, ← word]
    rfl

/-- A text in quotes is read as one word, if it does not hold the quote. -/
theorem writes_quoted {q : Quote} {cs : List Char} (unquoted : q.mark ∉ cs)
    (noFeed : '\n' ∉ cs) : Writes (q.around cs) (ofQuoted q cs) where
  reads := by
    intro rest words h
    obtain ⟨front, reads, word⟩ := splitFrom_quoted unquoted h
    rw [Quote.around, List.append_assoc, List.cons_append, List.singleton_append, splitFrom,
      quote?_mark, ← word]
    simp only [reads]
    rfl
  noFeed := by
    cases q <;> simpa [Quote.around, Quote.mark] using noFeed
  last := by
    refine ⟨q.mark, ?_, ?_⟩
    · rw [Quote.around, List.getLast?_concat]
    · cases q <;> decide

/-- Nothing but braces is added to an argument between its quotes. -/
theorem not_mem_inner {q : Quote} {c : Char} {cs : List Char} (h : c ∉ cs) (notOpening : c ≠ '{')
    (notClosing : c ≠ '}') : c ∉ q.inner cs := by
  cases q with
  | single => exact h
  | double =>
    intro mem
    rcases Variable.mem_escape mem with mem | same | same
    · exact h mem
    · exact notOpening same
    · exact notClosing same

/-- An argument in quotes is read as one word, if it does not hold the quote. -/
theorem writes_written {q : Quote} {cs : List Char} (unquoted : q.mark ∉ cs)
    (noFeed : '\n' ∉ cs) : Writes (q.written cs) (ofQuoted q (q.inner cs)) := by
  apply writes_quoted
  · exact not_mem_inner unquoted (by cases q <;> decide) (by cases q <;> decide)
  · exact not_mem_inner noFeed (by decide) (by decide)

theorem forall₂_writes {texts : List (Quote × String)}
    (clean : ∀ a ∈ texts, '\n' ∉ a.2.toList ∧ a.1.mark ∉ a.2.toList) :
    List.Forall₂ Writes (texts.map fun a => a.1.written a.2.toList)
      (texts.map fun a => ofQuoted a.1 (a.1.inner a.2.toList)) := by
  rw [List.forall₂_map_left_iff, List.forall₂_map_right_iff, List.forall₂_same]
  intro a mem
  obtain ⟨noFeed, unquoted⟩ := clean a mem
  exact writes_written unquoted noFeed

/-! ### Texts without quotes -/

/-- A character that is part of a word wherever it stands. -/
def IsPlain (c : Char) : Prop :=
  isBlank c = false ∧ quote? c = none

theorem splitFrom_bare {cs rest : List Char} {words : List Word} (plain : ∀ c ∈ cs, IsPlain c)
    (h : splitFrom none rest = .ok ⟨none, words⟩) :
    ∃ front, splitFrom none (cs ++ rest) = .ok ⟨front, words⟩ ∧
      front.getD blank = ofQuoted .double cs ∧ (front = none → cs = []) := by
  induction cs with
  | nil => exact ⟨none, h, rfl, fun _ => rfl⟩
  | cons c cs ih =>
    obtain ⟨⟨notBlank, notQuote⟩, plain⟩ := List.forall_mem_cons.mp plain
    obtain ⟨front, reads, word, -⟩ := ih plain
    refine ⟨some (ofQuoted .double (c :: cs)), ?_, rfl, nofun⟩
    rw [List.cons_append, splitFrom, notQuote]
    simp only [notBlank, reads]
    rw [← cons_ofQuoted, ← word]
    rfl

/-- A text without blanks and quotes is read as one word. -/
theorem writes_bare {cs : List Char} (ne : cs ≠ []) (plain : ∀ c ∈ cs, IsPlain c) :
    Writes cs (ofQuoted .double cs) where
  reads := by
    intro rest words h
    obtain ⟨front, reads, word, empty⟩ := splitFrom_bare plain h
    cases front with
    | none => exact absurd (empty rfl) ne
    | some w => rw [reads, ← word]; rfl
  noFeed := by
    intro mem
    exact absurd (plain _ mem).1 (by decide)
  last := by
    refine ⟨cs.getLast ne, List.getLast?_eq_some_getLast ne, ?_⟩
    exact (plain _ (List.getLast_mem ne)).1

/-! ### Lines of words -/

/-- Texts with a blank in front of each. -/
def spaced (parts : List (List Char)) : List Char :=
  parts.flatMap (' ' :: ·)

/-- Words that are written with blanks between them are read as those words. -/
theorem splitFrom_spaced {parts : List (List Char)} {words : List Word}
    (h : List.Forall₂ Writes parts words) :
    splitFrom none (spaced parts) = .ok ⟨none, words⟩ := by
  induction h with
  | nil => rfl
  | @cons part w parts words writes _ ih =>
    have blank : isBlank ' ' = true := by decide
    have notQuote : quote? ' ' = none := by decide
    have reads := writes.reads _ _ ih
    rw [spaced] at reads
    rw [spaced, List.flatMap_cons, List.cons_append, splitFrom, notQuote]
    simp only [blank, reads]
    rfl

/-- Texts with single blanks between them are read as their words. -/
theorem splitWords_spaced {part : List Char} {w : Word} {parts : List (List Char)}
    {words : List Word} (head : Writes part w) (tail : List.Forall₂ Writes parts words) :
    splitWords (part ++ spaced parts) = .ok (w :: words) := by
  rw [splitWords, head.reads _ _ (splitFrom_spaced tail)]
  rfl

theorem feed_not_mem_spaced {parts : List (List Char)} {words : List Word}
    (h : List.Forall₂ Writes parts words) : '\n' ∉ spaced parts := by
  induction h with
  | nil => exact List.not_mem_nil
  | cons writes _ ih =>
    rw [spaced] at ih
    simp only [spaced, List.flatMap_cons, List.cons_append, List.mem_cons, List.mem_append, not_or]
    exact ⟨by decide, writes.noFeed, ih⟩

/-- A line of words does not end with a blank. -/
theorem exists_getLast?_spaced {cs : List Char} {parts : List (List Char)} {words : List Word}
    (head : ∃ c, cs.getLast? = some c ∧ isBlank c = false)
    (tail : List.Forall₂ Writes parts words) :
    ∃ c, (cs ++ spaced parts).getLast? = some c ∧ isBlank c = false := by
  induction tail generalizing cs with
  | nil => simpa [spaced] using head
  | @cons part w parts words writes _ ih =>
    obtain ⟨c, last, notBlank⟩ := writes.last
    have front : ∃ c, (cs ++ ' ' :: part).getLast? = some c ∧ isBlank c = false := by
      refine ⟨c, ?_, notBlank⟩
      rw [List.getLast?_append, List.getLast?_cons, last]
      rfl
    simpa [spaced] using ih front

/-! ### The arguments -/

/-- What stands in single quotes is the argument, whatever the variables are. -/
theorem expand_single {m : Type → Type} [Monad m] [LawfulMonad m]
    (lookup : String → m (Option String)) (cs : List Char) :
    (ofQuoted .single cs).expand lookup = pure (String.ofList cs) := by
  cases cs <;> simp [ofQuoted, expand, expandPieces, Quote.piece]

theorem mapM_expand_single {m : Type → Type} [Monad m] [LawfulMonad m]
    (lookup : String → m (Option String)) (texts : List String) :
    (texts.map fun text => ofQuoted .single text.toList).mapM (expand lookup) = pure texts := by
  induction texts with
  | nil => rfl
  | cons text texts ih => simp [expand_single, ih]

end Word

namespace Session

/-- The reference that stands for a dollar sign asks for no variable. -/
theorem run_lookup_dollar (s : Session) :
    (lookup (String.ofList ['$'])).run s = (some (String.ofList ['$']), s) :=
  rfl

theorem run_expandTokens_escaped (cs : List Char) (s : Session) :
    (Variable.expandTokens lookup (cs.map Variable.Token.escaped)).run s = (cs, s) := by
  induction cs with
  | nil => rfl
  | cons c cs ih =>
    rw [List.map_cons, Variable.Token.escaped]
    by_cases dollar : c = '$'
    · rw [if_pos dollar, Variable.expandTokens, StateT.run_bind, run_lookup_dollar]
      change StateT.run (do
        let tail ← Variable.expandTokens lookup (cs.map Variable.Token.escaped)
        pure ((String.ofList ['$']).toList ++ tail)) s = _
      rw [String.toList_ofList, StateT.run_bind, ih, dollar]
      rfl
    · rw [if_neg dollar, Variable.expandTokens, StateT.run_bind, ih]
      rfl

/-- An argument in quotes of either kind is what the word stands for. -/
theorem run_expand_quoted (q : Word.Quote) (cs : List Char) (s : Session) :
    (expand (Word.ofQuoted q (q.inner cs))).run s = (String.ofList cs, s) := by
  cases q with
  | single =>
    rw [expand, Word.expand_single]
    rfl
  | double =>
    have tokens := run_expandTokens_escaped cs s
    rw [← Variable.tokens_escape] at tokens
    cases cs with
    | nil => rfl
    | cons c cs =>
      have ne : Variable.escape (c :: cs) ≠ [] := by
        rw [Variable.escape, List.flatMap_cons, Variable.escapeChar]
        split <;> simp
      rw [expand, Word.expand, Word.ofQuoted, Word.Quote.inner, if_neg ne, Word.Quote.piece,
        StateT.run_bind, Word.expandPieces, StateT.run_bind, Variable.expand, tokens]
      change (String.ofList (c :: cs ++ []), s) = _
      rw [List.append_nil]

/-- Quoted arguments are the texts that were quoted, in any session, and cost no unique name. -/
theorem run_expandAll_quoted (arguments : List (Word.Quote × String)) (s : Session) :
    (expandAll (arguments.map fun a => Word.ofQuoted a.1 (a.1.inner a.2.toList))).run s =
      (arguments.map Prod.snd, s) := by
  induction arguments generalizing s with
  | nil => rfl
  | cons a arguments ih =>
    have head := run_expand_quoted a.1 a.2.toList s
    rw [String.ofList_toList] at head
    rw [List.map_cons, expandAll, StateT.run_bind, head]
    change StateT.run (do
      let tail ← expandAll _
      pure (a.2 :: tail)) s = _
    rw [StateT.run_bind, ih]
    rfl

end Session
end ScriptSuite
