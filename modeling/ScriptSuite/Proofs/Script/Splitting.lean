import Mathlib.Data.List.Forall2
import ScriptSuite.Proofs.Script.Grammar
import ScriptSuite.Script.Word

/-!
The grammar of words.

A scan of a line tells for each character whether it is a blank between words, opens or closes a
quote, or belongs to a word, inside a quote or outside (`signs`). The words are what stands between
those blanks: each maximal stretch without one is a word, whose characters are those of the stretch
but for its quotes (`splitWords_grammar`). Splitting fails if and only if the scan ends inside a
quote.
-/

namespace ScriptSuite

open Text

/-- Whether a part is never substituted. -/
def Piece.isLiteral : Piece → Bool
  | .literal _ => true
  | .subject _ => false

namespace Word

/-! ### Scanning a line -/

/-- What a character is to the words of its line. -/
inductive Role where
  /-- A blank between words. -/
  | blank
  /-- Belongs to a word, outside of quotes. -/
  | bare
  | opening (q : Quote)
  | inside (q : Quote)
  | closing (q : Quote)
  deriving DecidableEq, Repr

/-- What a character is inside an open quote, or outside of all quotes. -/
def role : Option Quote → Char → Role
  | some q, c => if c = q.mark then .closing q else .inside q
  | none, c =>
    match quote? c with
    | some q => .opening q
    | none => if isBlank c then .blank else .bare

/-- The quote that is open after a character. -/
def Role.leavesOpen : Role → Option Quote
  | .opening q => some q
  | .inside q => some q
  | .closing _ => none
  | .blank => none
  | .bare => none

/-- The quote that is open after a text. -/
def openAfter (start : Option Quote) (cs : List Char) : Option Quote :=
  cs.foldl (fun state c => (role state c).leavesOpen) start

/-- A character of a line, with its position. -/
structure Sign where
  position : Nat
  char : Char
  role : Role
  deriving DecidableEq, Repr

/-- Whether a character stands between words. -/
def Sign.isBreak (s : Sign) : Bool :=
  s.role == .blank

/-- What a character is in its word: literal if it stands in single quotes, and open to
substitution if not. Quotes and the blanks between words are not in any word. -/
def Sign.content? (s : Sign) : Option (Bool × Char) :=
  match s.role with
  | .bare => some (false, s.char)
  | .inside q => some (q == .single, s.char)
  | .blank => none
  | .opening _ => none
  | .closing _ => none

/-- The characters of a text that begins at a position; what each of them is, is told by the quote
that is open after those before it. -/
def signsFrom (start : Option Quote) (first : Nat) (cs : List Char) : List Sign :=
  cs.zipIdx.map fun (c, i) => ⟨first + i, c, role (openAfter start (cs.take i)) c⟩

/-- The characters of a line. -/
def signs (cs : List Char) : List Sign :=
  signsFrom none 0 cs

/-- The maximal stretches of a line without blanks between words. -/
def stretches (cs : List Char) : List (List Sign) :=
  ((signs cs).splitOnP Sign.isBreak).filter (!·.isEmpty)

/-- The characters of a word, each with a mark whether it is literal. -/
def marked (w : Word) : List (Bool × Char) :=
  w.pieces.flatMap fun p => p.chars.map (p.isLiteral, ·)

/-- The parts of a word are not empty, and literal ones and others take turns. -/
structure Parted (w : Word) : Prop where
  filled : ∀ p ∈ w.pieces, p.chars ≠ []
  turns : (w.pieces.map Piece.isLiteral).IsChain (· ≠ ·)

/-- The word that a stretch is read as, if a quote may be open at its start. It has no characters
if and only if the stretch closes this quote, and is made up of empty pairs of quotes but for
that. -/
structure ReadAs (start : Option Quote) (stretch : List Sign) (w : Word) : Prop where
  marked : w.marked = stretch.filterMap Sign.content?
  blank_iff : w = blank ↔ ∃ pairs : List Quote, stretch.map Sign.role =
    (start.map Role.closing).toList ++ pairs.flatMap fun q => [.opening q, .closing q]
  parted : w.Parted

/-! ### The signs of a line -/

theorem signsFrom_cons (start : Option Quote) (first : Nat) (c : Char) (cs : List Char) :
    signsFrom start first (c :: cs) =
      ⟨first, c, role start c⟩ :: signsFrom (role start c).leavesOpen (first + 1) cs := by
  rw [signsFrom, List.zipIdx_cons, List.zipIdx_succ, List.map_cons, List.map_map, signsFrom]
  congr 1
  apply List.map_congr_left
  intro numbered _
  simp [openAfter, Nat.add_assoc, Nat.add_comm 1]

theorem position_of_mem_signsFrom {start : Option Quote} {first : Nat} {cs : List Char} {s : Sign}
    (mem : s ∈ signsFrom start first cs) : first ≤ s.position := by
  obtain ⟨numbered, -, rfl⟩ := List.mem_map.mp mem
  exact Nat.le_add_right first numbered.2

/-- The signs of a line stand one after another. -/
theorem pairwise_signsFrom (start : Option Quote) (first : Nat) (cs : List Char) :
    (signsFrom start first cs).Pairwise fun s t => s.position < t.position := by
  induction cs generalizing start first with
  | nil => exact .nil
  | cons c cs ih =>
    rw [signsFrom_cons]
    refine .cons ?_ (ih _ _)
    intro t mem
    exact position_of_mem_signsFrom mem

/-! ### Splitting signs -/

section

variable {ss : List Sign} {head : List Sign} {tail : List (List Sign)}

theorem flatten_splitOnP (ss : List Sign) :
    (ss.splitOnP Sign.isBreak).flatten = ss.filter (!·.isBreak) := by
  induction ss with
  | nil => rfl
  | cons s ss ih =>
    obtain ⟨head, tail, split⟩ := List.exists_cons_of_ne_nil (List.splitOnP_ne_nil Sign.isBreak ss)
    rw [List.splitOnP_cons_eq_if_modifyHead, List.filter_cons, ← ih, split]
    cases s.isBreak <;> rfl

/-- The first stretch goes up to the first break. -/
theorem mem_head_iff (inOrder : ss.Pairwise fun s t => s.position < t.position)
    (split : ss.splitOnP Sign.isBreak = head :: tail) {t : Sign} (mem : t ∈ ss) :
    t ∈ head ↔ t.isBreak = false ∧
      ∀ u ∈ ss, u.position < t.position → u.isBreak = false := by
  induction ss generalizing head tail with
  | nil => cases mem
  | cons s ss ih =>
    obtain ⟨before, inOrder⟩ := List.pairwise_cons.mp inOrder
    obtain ⟨head', tail', split'⟩ :=
      List.exists_cons_of_ne_nil (List.splitOnP_ne_nil Sign.isBreak ss)
    rw [List.splitOnP_cons_eq_if_modifyHead, split', List.modifyHead_cons] at split
    cases break_ : s.isBreak with
    | true =>
      rw [if_pos break_] at split
      cases split
      refine iff_of_false List.not_mem_nil ?_
      rintro ⟨kept, clear⟩
      rcases List.mem_cons.mp mem with rfl | mem
      · rw [break_] at kept
        cases kept
      · rw [clear s List.mem_cons_self (before t mem)] at break_
        cases break_
    | false =>
      rw [if_neg (by simp [break_])] at split
      cases split
      rcases List.mem_cons.mp mem with rfl | later
      · refine iff_of_true List.mem_cons_self ⟨break_, ?_⟩
        intro u mem' earlier
        rcases List.mem_cons.mp mem' with rfl | mem'
        · exact break_
        · exact absurd (before u mem') (Nat.lt_asymm earlier)
      · have other : t ≠ s := by
          rintro rfl
          exact absurd (before t later) (Nat.lt_irrefl _)
        rw [List.mem_cons, or_iff_right other, ih inOrder split' later, List.forall_mem_cons]
        simp [break_]

theorem mem_of_mem_splitOnP {stretch : List Sign} (among : stretch ∈ ss.splitOnP Sign.isBreak)
    {s : Sign} (mem : s ∈ stretch) : s ∈ ss := by
  have flat : s ∈ (ss.splitOnP Sign.isBreak).flatten := List.mem_flatten_of_mem among mem
  rw [flatten_splitOnP] at flat
  exact List.mem_of_mem_filter flat

/-- The first sign is in the first stretch alone, and so together with those up to the first
break. -/
theorem together_first_iff {s t : Sign}
    (inOrder : (s :: ss).Pairwise fun s t => s.position < t.position) (mem : t ∈ s :: ss)
    (kept : s.isBreak = false) (kept' : t.isBreak = false) :
    (∃ stretch ∈ (s :: ss).splitOnP Sign.isBreak, s ∈ stretch ∧ t ∈ stretch) ↔
      ∀ u ∈ s :: ss, s.position < u.position → u.position < t.position → u.isBreak = false := by
  obtain ⟨before, inOrder⟩ := List.pairwise_cons.mp inOrder
  obtain ⟨head, tail, split⟩ := List.exists_cons_of_ne_nil (List.splitOnP_ne_nil Sign.isBreak ss)
  have ne_first {u : Sign} (later : u ∈ ss) : u ≠ s := by
    rintro rfl
    exact absurd (before u later) (Nat.lt_irrefl _)
  have noOther : ¬ ∃ stretch ∈ tail, s ∈ stretch ∧ t ∈ stretch := by
    rintro ⟨stretch, among, within, -⟩
    have again : s ∈ ss :=
      mem_of_mem_splitOnP (split ▸ List.mem_cons_of_mem head among) within
    exact ne_first again rfl
  rw [List.splitOnP_cons_eq_if_modifyHead, split, List.modifyHead_cons,
    if_neg (by simp [kept]), List.exists_mem_cons_iff, or_iff_left noOther,
    and_iff_right List.mem_cons_self]
  rcases List.mem_cons.mp mem with rfl | later
  · refine iff_of_true List.mem_cons_self ?_
    intro u _ after before'
    exact absurd before' (Nat.lt_asymm after)
  · rw [List.mem_cons, or_iff_right (ne_first later), mem_head_iff inOrder split later,
      and_iff_right kept', List.forall_mem_cons]
    simp only [Nat.lt_irrefl, false_implies, true_and]
    constructor
    · intro clear u among _
      exact clear u among
    · intro clear u among
      exact clear u among (before u among)

/-- Two signs are in one stretch if and only if there is no break between them. -/
theorem together_iff (inOrder : ss.Pairwise fun s t => s.position < t.position) {s t : Sign}
    (mem : s ∈ ss) (mem' : t ∈ ss) (kept : s.isBreak = false) (kept' : t.isBreak = false)
    (le : s.position ≤ t.position) :
    (∃ stretch ∈ ss.splitOnP Sign.isBreak, s ∈ stretch ∧ t ∈ stretch) ↔
      ∀ u ∈ ss, s.position < u.position → u.position < t.position → u.isBreak = false := by
  induction ss with
  | nil => cases mem
  | cons first ss ih =>
    rcases List.mem_cons.mp mem with rfl | later
    · exact together_first_iff inOrder mem' kept kept'
    · obtain ⟨before, inOrder⟩ := List.pairwise_cons.mp inOrder
      have earlier := before s later
      have other : s ≠ first := by
        rintro rfl
        exact absurd earlier (Nat.lt_irrefl _)
      have other' : t ≠ first := by
        rintro rfl
        exact absurd earlier (Nat.not_lt.mpr le)
      have later' : t ∈ ss := (List.mem_cons.mp mem').resolve_left other'
      obtain ⟨head, tail, split⟩ :=
        List.exists_cons_of_ne_nil (List.splitOnP_ne_nil Sign.isBreak ss)
      have inner := ih inOrder later later'
      rw [List.forall_mem_cons, and_iff_right fun after => absurd after (Nat.lt_asymm earlier),
        ← inner, List.splitOnP_cons_eq_if_modifyHead, split, List.modifyHead_cons]
      cases first.isBreak with
      | true => simp
      | false =>
        rw [if_neg Bool.false_ne_true, List.exists_mem_cons_iff, List.exists_mem_cons_iff,
          List.mem_cons, List.mem_cons, or_iff_right other, or_iff_right other']

end

/-! ### Words character by character -/

theorem marked_cons (isLiteral : Bool) (c : Char) (w : Word) :
    (w.cons isLiteral c).marked = (isLiteral, c) :: w.marked := by
  obtain ⟨pieces⟩ := w
  rcases pieces with - | ⟨text | text, rest⟩ <;> cases isLiteral <;> rfl

theorem cons_ne_blank (isLiteral : Bool) (c : Char) (w : Word) : w.cons isLiteral c ≠ blank := by
  intro none
  have marks := marked_cons isLiteral c w
  rw [none] at marks
  cases marks

theorem Parted.blank : blank.Parted :=
  ⟨nofun, .nil⟩

/-- A character joins the first part if that is of its kind, and else begins one of its own. -/
theorem Parted.cons {w : Word} (parted : w.Parted) (isLiteral : Bool) (c : Char) :
    (w.cons isLiteral c).Parted := by
  obtain ⟨pieces⟩ := w
  obtain ⟨filled, turns⟩ := parted
  constructor
  · rcases pieces with - | ⟨text | text, rest⟩ <;> cases isLiteral <;>
      simp_all [Word.cons, consPiece, Piece.chars]
  · rcases pieces with - | ⟨text | text, rest⟩ <;> cases isLiteral
    · exact .singleton _
    · exact .singleton _
    · exact .cons_cons Bool.false_ne_true turns
    · exact turns
    · exact turns
    · exact .cons_cons Bool.false_ne_true.symm turns

namespace ReadAs

variable {stretch : List Sign} {w : Word} {position : Nat} {c : Char} {q : Quote}

theorem nil : ReadAs none [] blank where
  marked := rfl
  blank_iff := iff_of_true rfl ⟨[], rfl⟩
  parted := .blank

theorem opening (h : ReadAs (some q) stretch w) :
    ReadAs none (⟨position, c, .opening q⟩ :: stretch) w where
  marked := h.marked
  blank_iff := by
    rw [h.blank_iff]
    constructor
    · rintro ⟨pairs, roles⟩
      exact ⟨q :: pairs, by simp [roles]⟩
    · rintro ⟨pairs, roles⟩
      cases pairs with
      | nil => cases roles
      | cons q' pairs =>
        obtain ⟨⟨rfl⟩, roles⟩ := List.cons.inj roles
        exact ⟨pairs, roles⟩
  parted := h.parted

theorem closing (h : ReadAs none stretch w) :
    ReadAs (some q) (⟨position, c, .closing q⟩ :: stretch) w where
  marked := h.marked
  blank_iff := by
    rw [h.blank_iff]
    simp
  parted := h.parted

/-- A word with a character is not made up of quotes alone. -/
theorem content {start : Option Quote} {s : Sign} {isLiteral : Bool}
    (h : ReadAs start stretch w) (content : s.content? = some (isLiteral, s.char)) :
    ReadAs start (s :: stretch) (w.cons isLiteral s.char) where
  marked := by rw [marked_cons, h.marked, List.filterMap_cons_some content]
  blank_iff := by
    have notQuote (q : Quote) : s.role ≠ .opening q ∧ s.role ≠ .closing q := by
      constructor <;> intro quote <;> simp [Sign.content?, quote] at content
    refine iff_of_false (cons_ne_blank _ _ _) ?_
    rintro ⟨pairs, roles⟩
    cases start with
    | some q => exact (notQuote q).2 (List.cons.inj roles).1
    | none =>
      cases pairs with
      | nil => cases roles
      | cons q pairs => exact (notQuote q).1 (List.cons.inj roles).1
  parted := h.parted.cons _ _

end ReadAs

/-! ### Reading a line -/

/-- Splitting fails if and only if a quote is left open, and names that quote. -/
theorem splitFrom_eq_error_iff {start : Option Quote} {cs : List Char} {q : Quote} :
    splitFrom start cs = .error q ↔ openAfter start cs = some q := by
  induction cs generalizing start with
  | nil => cases start <;> simp [splitFrom, openAfter]
  | cons c cs ih =>
    have step : openAfter start (c :: cs) = openAfter (role start c).leavesOpen cs := rfl
    rw [step, ← ih]
    cases start with
    | some q' =>
      by_cases closes : c = q'.mark
      · simp [splitFrom, role, closes, Role.leavesOpen]
      · simp [splitFrom, role, closes, Role.leavesOpen, map_eq_error_iff]
    | none =>
      cases opens : quote? c with
      | some q' => simp [splitFrom, role, opens, Role.leavesOpen, map_eq_error_iff]
      | none =>
        cases blank : isBlank c <;>
          simp [splitFrom, role, opens, blank, Role.leavesOpen, map_eq_error_iff]

/-- What a text is split into is told by the stretches between its breaks: its front is what the
first of them is read as, and all others that are not empty are words of their own. -/
structure Splits (start : Option Quote) (head : List Sign) (tail : List (List Sign))
    (split : Split) : Prop where
  front : ReadAs start head (split.front.getD blank)
  /-- Outside of quotes there is no front if and only if the text begins with a break or ends. -/
  missing : start = none → (split.front = none ↔ head = [])
  rest : List.Forall₂ (ReadAs none) (tail.filter (!·.isEmpty)) split.rest

theorem Splits.words {head : List Sign} {tail : List (List Sign)} {split : Split}
    (h : Splits none head tail split) :
    List.Forall₂ (ReadAs none) ((head :: tail).filter (!·.isEmpty)) split.words := by
  have front := h.front
  have missing := h.missing rfl
  rw [Split.words]
  cases first : split.front with
  | none =>
    rw [missing.mp first]
    exact h.rest
  | some w =>
    have ne : head ≠ [] := by simp [← missing, first]
    rw [first] at front
    rw [List.filter_cons_of_pos (by simp [ne])]
    exact .cons front h.rest

theorem splitFrom_splits {start : Option Quote} {cs : List Char} {split : Split}
    (reads : splitFrom start cs = .ok split) (first : Nat) :
    ∃ head tail, (signsFrom start first cs).splitOnP Sign.isBreak = head :: tail ∧
      Splits start head tail split := by
  induction cs generalizing start split first with
  | nil =>
    cases start with
    | some q => cases reads
    | none =>
      cases reads
      exact ⟨[], [], rfl, .nil, fun _ => iff_of_true rfl rfl, .nil⟩
  | cons c cs ih =>
    rw [signsFrom_cons, List.splitOnP_cons_eq_if_modifyHead]
    cases start with
    | some q =>
      rw [splitFrom] at reads
      by_cases closes : c = q.mark
      · rw [if_pos closes] at reads
        obtain ⟨head, tail, signs, splits⟩ := ih reads (first + 1)
        simp only [role, if_pos closes, Role.leavesOpen, signs]
        exact ⟨_, tail, rfl, splits.front.closing, nofun, splits.rest⟩
      · rw [if_neg closes] at reads
        obtain ⟨inner, later, rfl⟩ := map_eq_ok_iff.mp reads
        obtain ⟨head, tail, signs, splits⟩ := ih later (first + 1)
        simp only [role, if_neg closes, Role.leavesOpen, signs]
        exact ⟨_, tail, rfl, splits.front.content rfl, nofun, splits.rest⟩
    | none =>
      rw [splitFrom] at reads
      cases opens : quote? c with
      | some q =>
        simp only [opens] at reads
        obtain ⟨inner, later, rfl⟩ := map_eq_ok_iff.mp reads
        obtain ⟨head, tail, signs, splits⟩ := ih later (first + 1)
        simp only [role, opens, Role.leavesOpen, signs]
        exact ⟨_, tail, rfl, splits.front.opening, fun _ => iff_of_false nofun nofun, splits.rest⟩
      | none =>
        simp only [opens] at reads
        cases blank : isBlank c with
        | true =>
          rw [if_pos blank] at reads
          obtain ⟨inner, later, rfl⟩ := map_eq_ok_iff.mp reads
          obtain ⟨head, tail, signs, splits⟩ := ih later (first + 1)
          have between : role none c = .blank := by simp [role, opens, blank]
          simp only [between, Role.leavesOpen, signs]
          exact ⟨[], head :: tail, rfl, .nil, fun _ => iff_of_true rfl rfl, splits.words⟩
        | false =>
          rw [if_neg (by simp [blank])] at reads
          obtain ⟨inner, later, rfl⟩ := map_eq_ok_iff.mp reads
          obtain ⟨head, tail, signs, splits⟩ := ih later (first + 1)
          have within : role none c = .bare := by simp [role, opens, blank]
          simp only [within, Role.leavesOpen, signs]
          exact ⟨_, tail, rfl, splits.front.content rfl, fun _ => iff_of_false nofun nofun,
            splits.rest⟩

/-- The words of a text are its stretches between blanks outside of quotes, each read on its own. -/
theorem stretches_read {cs : List Char} {words : List Word} (reads : splitWords cs = .ok words) :
    List.Forall₂ (ReadAs none) (stretches cs) words := by
  rw [splitWords, map_eq_ok_iff] at reads
  obtain ⟨split, reads, rfl⟩ := reads
  obtain ⟨head, tail, signs, splits⟩ := splitFrom_splits reads 0
  have words := splits.words
  rw [← signs] at words
  exact words

/-- The words of stretches have the characters of all of them, in order. -/
theorem flatMap_marked {groups : List (List Sign)} {words : List Word}
    (h : List.Forall₂ (ReadAs none) groups words) :
    words.flatMap marked = groups.flatten.filterMap Sign.content? := by
  induction h with
  | nil => rfl
  | cons reads _ ih => rw [List.flatMap_cons, reads.marked, ih, List.flatten_cons,
      List.filterMap_append]

theorem flatten_stretches (cs : List Char) :
    (stretches cs).flatten = (signs cs).filter (!·.isBreak) := by
  rw [stretches, List.flatten_filter_not_isEmpty, flatten_splitOnP]

/-- Blanks between words have no content, so that none is lost with them. -/
theorem filterMap_content_filter (ss : List Sign) :
    (ss.filter (!·.isBreak)).filterMap Sign.content? = ss.filterMap Sign.content? := by
  rw [List.filterMap_filter]
  apply List.filterMap_congr
  intro s _
  cases role : s.role <;> simp [Sign.isBreak, Sign.content?, role]

/-- Splitting a line fails if and only if a scan of it ends inside a quote. Otherwise its words
have all characters of the line but for quotes and the blanks between words, once and in order,
and they are literal if and only if they stand in single quotes. The words are the maximal
stretches without such a blank: two characters are in one word if and only if there is none between
them. A word is empty if and only if its stretch is made up of empty pairs of quotes. -/
theorem splitWords_grammar (cs : List Char) :
    (∀ q, splitWords cs = .error q ↔ openAfter none cs = some q) ∧
      ∀ words, splitWords cs = .ok words →
        words.flatMap marked = (signs cs).filterMap Sign.content? ∧
        List.Forall₂ (ReadAs none) (stretches cs) words ∧
        (stretches cs).flatten = (signs cs).filter (!·.isBreak) ∧
        (∀ stretch ∈ stretches cs, stretch ≠ []) ∧
        ∀ s ∈ signs cs, ∀ t ∈ signs cs, s.isBreak = false → t.isBreak = false →
          s.position ≤ t.position →
          ((∃ stretch ∈ stretches cs, s ∈ stretch ∧ t ∈ stretch) ↔
            ∀ u ∈ signs cs, s.position < u.position → u.position < t.position →
              u.isBreak = false) := by
  constructor
  · intro q
    rw [splitWords, map_eq_error_iff, splitFrom_eq_error_iff]
  · intro words reads
    have stretched := stretches_read reads
    refine ⟨?_, stretched, flatten_stretches cs, ?_, ?_⟩
    · rw [flatMap_marked stretched, flatten_stretches, filterMap_content_filter]
    · intro stretch among
      simpa using (List.mem_filter.mp among).2
    · intro s mem t mem' kept kept' le
      have together := together_iff (pairwise_signsFrom none 0 cs) mem mem' kept kept' le
      refine Iff.trans ?_ together
      constructor
      · rintro ⟨stretch, among, both⟩
        exact ⟨stretch, List.mem_of_mem_filter among, both⟩
      · rintro ⟨stretch, among, both⟩
        have ne : stretch ≠ [] := List.ne_nil_of_mem both.1
        exact ⟨stretch, List.mem_filter.mpr ⟨among, by simp [ne]⟩, both⟩

/-- Quotes of both kinds join what stands between them to one word, and a pair of quotes on its own
is a word without characters. -/
theorem splitWords_grammar_quotes :
    let cs := "a'b c'\"$d\" ''".toList
    let words : List Word :=
      [⟨[.subject ['a'], .literal ['b', ' ', 'c'], .subject ['$', 'd']]⟩, blank]
    splitWords cs = .ok words ∧ List.Forall₂ (ReadAs none) (stretches cs) words ∧
      words.flatMap marked = [(false, 'a'), (true, 'b'), (true, ' '), (true, 'c'), (false, '$'),
        (false, 'd')] := by
  intro cs words
  have reads : splitWords cs = .ok words := by decide
  obtain ⟨characters, stretched, -⟩ := (splitWords_grammar cs).2 words reads
  refine ⟨reads, stretched, ?_⟩
  rw [characters]
  decide

end Word
end ScriptSuite
