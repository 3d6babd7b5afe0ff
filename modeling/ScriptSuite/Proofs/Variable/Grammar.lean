import Mathlib.Data.List.TakeWhile
import ScriptSuite.Variable.Reference

/-!
The grammar of references.

A text is made up of plain text, references with and without braces, and dollar signs that stand
for themselves. `Part.Fits` says what may come after each of them, so that there is one way to cut
a text into such parts (`Cut.unique`). Substitution puts a value in place of each reference and
copies all else: it goes over the parts once, from left to right, and asks for each reference once
(`expand_cut`).
-/

namespace ScriptSuite.Variable

/-- A part of a text, as it is written. -/
inductive Part where
  | plain (run : List Char)
  /-- Written `${name}`. -/
  | braced (name : List Char)
  /-- Written `$name`. -/
  | named (name : List Char)
  /-- A dollar sign that stands for itself. -/
  | dollar
  deriving DecidableEq, Repr

namespace Part

/-- The text of a part. -/
def chars : Part → List Char
  | .plain run => run
  | .braced name => '$' :: '{' :: (name ++ ['}'])
  | .named name => '$' :: name
  | .dollar => ['$']

/-- The variable that a part refers to. -/
def name? : Part → Option String
  | .braced name => some (String.ofList name)
  | .named name => some (String.ofList name)
  | .plain _ => none
  | .dollar => none

/-- The part is read as such in front of `rest`: plain text and names are as long as can be, a name
in braces runs up to the first closing brace, and a dollar sign that stands for itself starts
neither a name nor braces that are closed. -/
def Fits (rest : List Char) : Part → Prop
  | .plain run => run ≠ [] ∧ '$' ∉ run ∧ ∀ c ∈ rest.head?, c = '$'
  | .braced name => '}' ∉ name
  | .named name => name ≠ [] ∧ (∀ c ∈ name, isNameChar c = true) ∧
      ∀ c ∈ rest.head?, isNameChar c = false
  | .dollar => (∀ c ∈ rest.head?, isNameChar c = false) ∧ (rest.head? = some '{' → '}' ∉ rest)

/-- What a part contributes: its text, or the value of its variable, and nothing for a variable
without a value. -/
def value {m : Type → Type} [Monad m] (lookup : String → m (Option String)) :
    Part → m (List Char)
  | .plain run => pure run
  | .braced name => do
    let value ← lookup (String.ofList name)
    pure (value.getD "").toList
  | .named name => do
    let value ← lookup (String.ofList name)
    pure (value.getD "").toList
  | .dollar => pure ['$']

end Part

/-- The parts that a text is made up of. -/
inductive Cut : List Char → List Part → Prop where
  | nil : Cut [] []
  | cons {p : Part} {rest : List Char} {parts : List Part} :
      p.Fits rest → Cut rest parts → Cut (p.chars ++ rest) (p :: parts)

/-- A look-up that keeps a record of the names that it is asked for. -/
def recorded {m : Type → Type} [Monad m] (lookup : String → m (Option String)) (name : String) :
    StateT (List String) m (Option String) := do
  modify (· ++ [name])
  lookup name

/-! ### What is read of a part -/

theorem takeWhile_run {kind : Char → Bool} {run rest : List Char}
    (inside : ∀ c ∈ run, kind c = true) (ends : ∀ c ∈ rest.head?, kind c = false) :
    (run ++ rest).takeWhile kind = run := by
  have stops : rest.takeWhile kind = [] := by
    cases rest with
    | nil => rfl
    | cons c rest => exact List.takeWhile_cons_of_neg (by simp [ends c rfl])
  rw [List.takeWhile_append_of_pos inside, stops, List.append_nil]

/-- Text without a character ends where the character stands. -/
theorem takeWhile_ne {d : Char} {run rest : List Char} (clear : d ∉ run)
    (ends : ∀ c ∈ rest.head?, c = d) : (run ++ rest).takeWhile (· != d) = run := by
  apply takeWhile_run
  · intro c mem
    have other : c ≠ d := fun same => clear (same ▸ mem)
    simpa using other
  · intro c head
    simpa using ends c head

theorem reference?_braced {name : List Char} (clear : '}' ∉ name) (rest : List Char) :
    reference? ('{' :: (name ++ '}' :: rest)) = some (name, name.length + 2) := by
  have taken : (name ++ '}' :: rest).takeWhile (· != '}') = name := takeWhile_ne clear (by simp)
  simp [reference?, taken]

theorem reference?_named {name rest : List Char} (fits : (Part.named name).Fits rest) :
    reference? (name ++ rest) = some (name, name.length) ∧ (name ++ rest).head? ≠ some '{' := by
  obtain ⟨ne, inside, ends⟩ := fits
  have taken := takeWhile_run inside ends
  obtain ⟨c, name, rfl⟩ := List.exists_cons_of_ne_nil ne
  have notBrace : c ≠ '{' := by
    rintro rfl
    exact absurd (inside _ List.mem_cons_self) (by decide)
  refine ⟨?_, by simpa using notBrace⟩
  rw [List.cons_append] at taken ⊢
  rw [reference?]
  · simp [taken]
  · intro more opens
    exact notBrace (List.cons.inj opens).1

theorem reference?_dollar {rest : List Char} (fits : Part.dollar.Fits rest) :
    reference? rest = none := by
  obtain ⟨ends, unclosed⟩ := fits
  rw [reference?.eq_def]
  split
  · next more =>
    have absent : '}' ∉ more := fun mem => unclosed rfl (List.mem_cons_of_mem _ mem)
    simp [absent]
  · have taken : ([] ++ rest).takeWhile isNameChar = [] := takeWhile_run (by simp) ends
    rw [List.nil_append] at taken
    simp [taken]

/-! ### One way to cut a text -/

/-- What a text starts with. -/
def next? : List Char → Option Part
  | [] => none
  | c :: cs =>
    if c = '$' then
      match reference? cs with
      | some (name, _) => some (if cs.head? = some '{' then .braced name else .named name)
      | none => some .dollar
    else some (.plain ((c :: cs).takeWhile (· != '$')))

theorem next?_of_fits {p : Part} {rest : List Char} (fits : p.Fits rest) :
    next? (p.chars ++ rest) = some p := by
  cases p with
  | plain run =>
    obtain ⟨ne, clear, ends⟩ := fits
    obtain ⟨c, run, rfl⟩ := List.exists_cons_of_ne_nil ne
    have other : c ≠ '$' := fun same => clear (same ▸ List.mem_cons_self)
    have taken := takeWhile_ne clear ends
    rw [List.cons_append] at taken
    simp [Part.chars, next?, other, taken]
  | braced name =>
    have refers := reference?_braced fits rest
    simp [Part.chars, next?, refers]
  | named name =>
    obtain ⟨refers, notBrace⟩ := reference?_named fits
    simp only [Part.chars, List.cons_append, next?, if_true, refers, if_neg notBrace]
  | dollar =>
    have none := reference?_dollar fits
    simp [Part.chars, next?, none]

/-- There is no more than one way to cut a text. -/
theorem Cut.unique {cs : List Char} {parts others : List Part} (cut : Cut cs parts)
    (cut' : Cut cs others) : parts = others := by
  induction cut generalizing others with
  | nil =>
    generalize whole : [] = cs at cut'
    cases cut' with
    | nil => rfl
    | cons fits _ =>
      have first := next?_of_fits fits
      rw [← whole] at first
      cases first
  | @cons p rest parts fits _ ih =>
    generalize whole : p.chars ++ rest = cs at cut'
    have first := next?_of_fits fits
    cases cut' with
    | nil =>
      rw [whole] at first
      cases first
    | cons fits' cut' =>
      rw [whole, next?_of_fits fits'] at first
      cases first
      rw [ih (List.append_cancel_left whole ▸ cut')]

theorem Part.Fits.chars_ne_nil {p : Part} {rest : List Char} (fits : p.Fits rest) :
    p.chars ≠ [] := by
  cases p with
  | plain run => exact fits.1
  | braced name => exact List.cons_ne_nil _ _
  | named name => exact List.cons_ne_nil _ _
  | dollar => exact List.cons_ne_nil _ _

/-- A run of characters of a kind can be taken from the front of a text. -/
theorem exists_run (kind : Char → Bool) (cs : List Char) :
    ∃ rest, cs = cs.takeWhile kind ++ rest ∧ (∀ c ∈ cs.takeWhile kind, kind c = true) ∧
      ∀ c ∈ rest.head?, kind c = false := by
  refine ⟨cs.dropWhile kind, List.takeWhile_append_dropWhile.symm, ?_, ?_⟩
  · intro c mem
    exact List.mem_takeWhile_imp mem
  · intro c head
    have stops := List.head?_dropWhile_not kind cs
    rw [head] at stops
    exact stops

/-- A text that is not empty starts with a part. -/
theorem exists_fits {cs : List Char} (ne : cs ≠ []) :
    ∃ (p : Part) (rest : List Char), cs = p.chars ++ rest ∧ p.Fits rest := by
  obtain ⟨c, cs, rfl⟩ := List.exists_cons_of_ne_nil ne
  by_cases dollar : c = '$'
  · subst dollar
    by_cases closed : cs.head? = some '{' ∧ '}' ∈ cs
    · obtain ⟨more, rfl⟩ := List.head?_eq_some_iff.mp closed.1
      have mem : '}' ∈ more := (List.mem_cons.mp closed.2).resolve_left (by decide)
      obtain ⟨name, rest, rfl, clear⟩ := List.eq_append_cons_of_mem mem
      exact ⟨.braced name, rest, by simp [Part.chars], clear⟩
    · obtain ⟨rest, text, inside, ends⟩ := exists_run isNameChar cs
      by_cases none : cs.takeWhile isNameChar = []
      · rw [none, List.nil_append] at text
        subst text
        exact ⟨.dollar, cs, rfl, ends, fun opens mem => closed ⟨opens, mem⟩⟩
      · exact ⟨.named _, rest, congrArg ('$' :: ·) text, none, inside, ends⟩
  · obtain ⟨rest, text, inside, ends⟩ := exists_run (· != '$') (c :: cs)
    refine ⟨.plain ((c :: cs).takeWhile (· != '$')), rest, text, ?_, ?_, ?_⟩
    · simp [dollar]
    · intro mem
      exact absurd (inside '$' mem) (by decide)
    · intro d head
      simpa using ends d head

/-- Every text can be cut into parts. -/
theorem exists_cut (cs : List Char) : ∃ parts, Cut cs parts := by
  induction size : cs.length using Nat.strong_induction_on generalizing cs with
  | _ n ih =>
    by_cases ne : cs = []
    · exact ⟨[], ne ▸ .nil⟩
    · obtain ⟨p, rest, rfl, fits⟩ := exists_fits ne
      have shorter : rest.length < n := by
        have some := List.length_pos_iff.mpr fits.chars_ne_nil
        rw [List.length_append] at size
        omega
      obtain ⟨parts, cut⟩ := ih rest.length shorter rest rfl
      exact ⟨p :: parts, .cons fits cut⟩

/-! ### What is read of all parts -/

/-- What a part is read as. -/
def Part.tokens : Part → List Token
  | .plain run => run.map .char
  | .braced name => [.reference name]
  | .named name => [.reference name]
  | .dollar => [.char '$']

theorem tokensFrom_eq (skip : Nat) (cs : List Char) :
    tokensFrom skip cs = tokens (cs.drop skip) := by
  induction cs generalizing skip with
  | nil => cases skip <;> rfl
  | cons c cs ih =>
    cases skip with
    | zero => rfl
    | succ skip => exact ih skip

theorem tokens_plain {run : List Char} (clear : '$' ∉ run) (rest : List Char) :
    tokens (run ++ rest) = run.map .char ++ tokens rest := by
  induction run with
  | nil => rfl
  | cons c run ih =>
    obtain ⟨other, clear⟩ := not_or.mp (mt List.mem_cons.mpr clear)
    rw [List.cons_append, tokens, tokensFrom, if_neg (Ne.symm other)]
    exact congrArg _ (ih clear)

theorem tokens_reference {cs name : List Char} {length : Nat}
    (refers : reference? cs = some (name, length)) :
    tokens ('$' :: cs) = .reference name :: tokens (cs.drop length) := by
  rw [tokens, tokensFrom, if_pos rfl, refers]
  exact congrArg _ (tokensFrom_eq length cs)

/-- A part is read on its own. -/
theorem tokens_append {p : Part} {rest : List Char} (fits : p.Fits rest) :
    tokens (p.chars ++ rest) = p.tokens ++ tokens rest := by
  cases p with
  | plain run => exact tokens_plain fits.2.1 rest
  | braced name =>
    have read := tokens_reference (reference?_braced fits rest)
    simpa [Part.chars, Part.tokens] using read
  | named name =>
    have read := tokens_reference (reference?_named fits).1
    simpa [Part.chars, Part.tokens] using read
  | dollar =>
    rw [Part.chars, List.cons_append, List.nil_append, tokens, tokensFrom, if_pos rfl,
      reference?_dollar fits]
    rfl

/-- The tokens of a text are those of its parts, in order. -/
theorem Cut.tokens {cs : List Char} {parts : List Part} (cut : Cut cs parts) :
    tokens cs = parts.flatMap Part.tokens := by
  induction cut with
  | nil => rfl
  | cons fits _ ih => rw [tokens_append fits, ih, List.flatMap_cons]

/-! ### Substitution -/

section

variable {m : Type → Type} [Monad m] [LawfulMonad m] (lookup : String → m (Option String))

theorem expandTokens_append (front back : List Token) :
    expandTokens lookup (front ++ back) = (do
      let head ← expandTokens lookup front
      let tail ← expandTokens lookup back
      pure (head ++ tail)) := by
  induction front with
  | nil => simp [expandTokens]
  | cons token front ih =>
    cases token with
    | char c => simp [expandTokens, ih]
    | reference name =>
      simp only [List.cons_append, expandTokens, ih, bind_assoc, pure_bind, List.append_assoc]

theorem expandTokens_part (p : Part) : expandTokens lookup p.tokens = p.value lookup := by
  cases p with
  | plain run =>
    induction run with
    | nil => rfl
    | cons c run ih =>
      simp only [Part.tokens, Part.value] at ih
      simp [Part.tokens, Part.value, expandTokens, ih]
  | braced name => simp [Part.tokens, Part.value, expandTokens]
  | named name => simp [Part.tokens, Part.value, expandTokens]
  | dollar => simp [Part.tokens, Part.value, expandTokens]

/-- A text is expanded part by part. -/
theorem Cut.expand {cs : List Char} {parts : List Part} (cut : Cut cs parts) :
    expand lookup cs = List.flatten <$> parts.mapM (Part.value lookup) := by
  rw [Variable.expand, cut.tokens]
  clear cut
  induction parts with
  | nil => simp [expandTokens]
  | cons p parts ih =>
    rw [List.flatMap_cons, expandTokens_append, expandTokens_part, ih]
    simp

theorem value_recorded (p : Part) (asked : List String) :
    (p.value (recorded lookup)).run asked =
      (fun text => (text, asked ++ p.name?.toList)) <$> p.value lookup := by
  cases p <;> simp [Part.value, Part.name?, recorded]

/-- The variables that are asked for are those of the references, each as often as it is referred to
and in order. -/
theorem mapM_value_recorded (parts : List Part) (asked : List String) :
    (parts.mapM (Part.value (recorded lookup))).run asked =
      (fun texts => (texts, asked ++ parts.filterMap Part.name?)) <$>
        parts.mapM (Part.value lookup) := by
  induction parts generalizing asked with
  | nil => simp
  | cons p parts ih =>
    have names : (p :: parts).filterMap Part.name? =
        p.name?.toList ++ parts.filterMap Part.name? := by
      rw [List.filterMap_cons]
      cases p.name? <;> rfl
    simp [value_recorded, ih, names]

end

/-- A text is cut in one way into plain text, references and dollar signs that stand for
themselves, which make it up. Substitution copies the plain text and these dollar signs and puts a
value in place of each reference, from left to right; it asks for the variable of each reference
once, in order, and for nothing else. -/
theorem expand_cut (cs : List Char) :
    ∃ parts, Cut cs parts ∧ (∀ others, Cut cs others → others = parts) ∧
      ∀ {m : Type → Type} [Monad m] [LawfulMonad m] (lookup : String → m (Option String)),
        expand lookup cs = List.flatten <$> parts.mapM (Part.value lookup) ∧
        ∀ asked, (expand (recorded lookup) cs).run asked =
          (fun text => (text, asked ++ parts.filterMap Part.name?)) <$> expand lookup cs := by
  obtain ⟨parts, cut⟩ := exists_cut cs
  refine ⟨parts, cut, fun others cut' => cut'.unique cut, ?_⟩
  intro m _ _ lookup
  refine ⟨cut.expand lookup, ?_⟩
  intro asked
  rw [cut.expand (recorded lookup), cut.expand lookup, StateT.run_map, mapM_value_recorded]
  simp

/-- A dollar sign in a name in braces starts nothing, and a value is not looked through again. -/
theorem expand_cut_nested :
    let cs := "$a$\x7bb$c\x7d-$ $\x7b".toList
    let parts : List Part := [.named ['a'], .braced ['b', '$', 'c'], .plain ['-'], .dollar,
      .plain [' '], .dollar, .plain ['{']]
    let lookup : String → StateM Nat (Option String) := fun name => do
      let asked ← getModify (· + 1)
      pure (if name = "a" then some (String.ofList ('$' :: List.replicate asked 'b')) else none)
    Cut cs parts ∧ (∀ others, Cut cs others → others = parts) ∧
      (expand lookup cs).run 2 = ("$bb-$ $\x7b".toList, 4) ∧
      ((expand (recorded lookup) cs).run []).run 2 =
        (("$bb-$ $\x7b".toList, ["a", "b$c"]), 4) := by
  intro cs parts lookup
  have text : cs = parts.flatMap Part.chars := by decide
  have cut : Cut cs parts := by
    rw [text]
    refine .cons ?_ (.cons ?_ (.cons ?_ (.cons ?_ (.cons ?_ (.cons ?_ (.cons ?_ .nil))))))
    all_goals simp [Part.Fits, Part.chars, isNameChar]
  obtain ⟨found, -, unique, expands⟩ := expand_cut cs
  have same := unique parts cut
  subst same
  obtain ⟨values, asks⟩ := expands lookup
  have value : (expand lookup cs).run 2 = ("$bb-$ $\x7b".toList, 4) := by
    rw [values]
    rfl
  refine ⟨cut, unique, value, ?_⟩
  rw [asks, StateT.run_map, value]
  rfl

end ScriptSuite.Variable
