import ScriptSuite.Proofs.Text.Entities
import ScriptSuite.Proofs.Xml.Grammar

/-!
Escaped texts are read as what they were.

To read a text is to put the characters for the references in it. That is refused just if an
ampersand starts no reference (`unescape?_isSome_iff`). An escaped text has no marks, each of its
ampersands starts a reference, and it is read as the text that was escaped (`escapeXml_lossless`).
No other texts without marks can be read: such a text is the escaped form of what is read
(`unescapeXml?_eq_some_iff`).
-/

namespace ScriptSuite.Xml

open Text (entities entityOf escapeXml replaceAll)

/-! ### What is written for a character -/

/-- What is written for a character: five of them are written by their names. -/
def escapedChar : Char → List Char
  | '&' => "&amp;".toList
  | '<' => "&lt;".toList
  | '>' => "&gt;".toList
  | '"' => "&quot;".toList
  | '\'' => "&apos;".toList
  | c => [c]

/-- A text has none of the characters that have a meaning in markup, ampersands apart. -/
def Unmarked (cs : List Char) : Prop :=
  ∀ mark ∈ ['<', '>', '"', '\''], mark ∉ cs

theorem unmarked_append {cs ds : List Char} :
    Unmarked (cs ++ ds) ↔ Unmarked cs ∧ Unmarked ds := by
  simp only [Unmarked, List.mem_append, not_or, forall_and]

theorem reference_of_mem : ∀ entity ∈ entities, Reference entity.2 entity.1 := by
  intro entity mem
  simp only [entities, List.mem_cons, List.not_mem_nil, or_false] at mem
  rcases mem with rfl | rfl | rfl | rfl | rfl
  · exact .ampersand
  · exact .less
  · exact .greater
  · exact .quote
  · exact .apostrophe

theorem entityOf_of_reference {r : List Char} {c : Char} (h : Reference r c) : entityOf c = r := by
  cases h <;> rfl

/-- A character is written as a reference, or as it is if it has no meaning in markup. -/
theorem entityOf_read (c : Char) :
    Reference (entityOf c) c ∨
      (c ≠ '<' ∧ c ≠ '&' ∧ c ≠ '>' ∧ c ≠ '"' ∧ c ≠ '\'') ∧ entityOf c = [c] := by
  rcases Text.entityOf_cases c with special | ⟨plain, same⟩
  · exact .inl (reference_of_mem _ special)
  · simp only [entities, List.forall_mem_cons] at plain
    obtain ⟨ampersand, less, greater, quote, apostrophe, -⟩ := plain
    exact .inr ⟨⟨less, ampersand, greater, quote, apostrophe⟩, same⟩

theorem entityOf_eq (c : Char) : entityOf c = escapedChar c := by
  unfold escapedChar
  split
  · rfl
  · rfl
  · rfl
  · rfl
  · rfl
  case _ ampersand less greater quote apostrophe =>
    rcases entityOf_read c with reference | ⟨-, same⟩
    · generalize entityOf c = r at reference
      cases reference <;> contradiction
    · exact same

theorem entityOf_of_unmarked {c : Char} (other : c ≠ '&') (unmarked : Unmarked [c]) :
    entityOf c = [c] := by
  rcases entityOf_read c with reference | ⟨-, same⟩
  · generalize entityOf c = r at reference
    cases reference <;> simp [Unmarked] at other unmarked
  · exact same

theorem Reference.unmarked {r : List Char} {c : Char} (h : Reference r c) : Unmarked r := by
  cases h <;> simp [Unmarked]

theorem unmarked_entityOf (c : Char) : Unmarked (entityOf c) := by
  rcases entityOf_read c with reference | ⟨⟨less, -, greater, quote, apostrophe⟩, same⟩
  · exact reference.unmarked
  · rw [same]
    simp [Unmarked, less.symm, greater.symm, quote.symm, apostrophe.symm]

/-- What is escaped holds no character that would be taken for markup. -/
theorem unmarked_flatMap (cs : List Char) : Unmarked (cs.flatMap entityOf) := by
  intro mark isMark mem
  obtain ⟨c, -, there⟩ := List.mem_flatMap.mp mem
  exact unmarked_entityOf c mark isMark there

/-! ### Reading -/

/-- Puts the characters for the references in a text, and gives up at an ampersand that starts
none. -/
def unescape? : List Char → Option (List Char)
  | [] => some []
  | '&' :: 'a' :: 'm' :: 'p' :: ';' :: rest => (unescape? rest).map ('&' :: ·)
  | '&' :: 'l' :: 't' :: ';' :: rest => (unescape? rest).map ('<' :: ·)
  | '&' :: 'g' :: 't' :: ';' :: rest => (unescape? rest).map ('>' :: ·)
  | '&' :: 'q' :: 'u' :: 'o' :: 't' :: ';' :: rest => (unescape? rest).map ('"' :: ·)
  | '&' :: 'a' :: 'p' :: 'o' :: 's' :: ';' :: rest => (unescape? rest).map ('\'' :: ·)
  | '&' :: _ => none
  | c :: rest => (unescape? rest).map (c :: ·)

/-- The text that a text in XML stands for, if all its references can be read. -/
def unescapeXml? (t : String) : Option String :=
  (unescape? t.toList).map String.ofList

/-- A text starts with a reference. -/
def StartsReference (t : List Char) : Prop :=
  ∃ r c, Reference r c ∧ r <+: t

theorem Reference.starts {r : List Char} {c : Char} (h : Reference r c) (rest : List Char) :
    StartsReference (r ++ rest) :=
  ⟨r, c, h, List.prefix_append r rest⟩

theorem unescape?_reference {r : List Char} {c : Char} (h : Reference r c) (rest : List Char) :
    unescape? (r ++ rest) = (unescape? rest).map (c :: ·) := by
  cases h <;> rfl

theorem unescape?_char {c : Char} (other : c ≠ '&') (rest : List Char) :
    unescape? (c :: rest) = (unescape? rest).map (c :: ·) := by
  simp [unescape?, other]

theorem unescape?_stray {rest : List Char} (stray : ¬ StartsReference ('&' :: rest)) :
    unescape? ('&' :: rest) = none := by
  rw [unescape?]
  · rintro tail rfl
    exact stray (Reference.ampersand.starts tail)
  · rintro tail rfl
    exact stray (Reference.less.starts tail)
  · rintro tail rfl
    exact stray (Reference.greater.starts tail)
  · rintro tail rfl
    exact stray (Reference.quote.starts tail)
  · rintro tail rfl
    exact stray (Reference.apostrophe.starts tail)

/-- A text ends, or it goes on with a reference, with an ampersand that starts none, or with
another character. -/
theorem reading_induction {motive : List Char → Prop} (nil : motive [])
    (reference : ∀ r c rest, Reference r c → motive rest → motive (r ++ rest))
    (stray : ∀ rest, ¬ StartsReference ('&' :: rest) → motive ('&' :: rest))
    (char : ∀ c rest, c ≠ '&' → motive rest → motive (c :: rest)) (t : List Char) : motive t := by
  induction t using unescape?.induct with
  | case1 => exact nil
  | case2 rest ih => exact reference _ _ rest .ampersand ih
  | case3 rest ih => exact reference _ _ rest .less ih
  | case4 rest ih => exact reference _ _ rest .greater ih
  | case5 rest ih => exact reference _ _ rest .quote ih
  | case6 rest ih => exact reference _ _ rest .apostrophe ih
  | case7 rest ampersand less greater quote apostrophe =>
    refine stray rest ?_
    rintro ⟨r, c, named, tail, same⟩
    cases named with
    | ampersand => exact ampersand tail (List.cons.inj same).2.symm
    | less => exact less tail (List.cons.inj same).2.symm
    | greater => exact greater tail (List.cons.inj same).2.symm
    | quote => exact quote tail (List.cons.inj same).2.symm
    | apostrophe => exact apostrophe tail (List.cons.inj same).2.symm
  | case8 c rest _ _ _ _ _ other ih => exact char c rest other ih

/-! ### Texts that can be read -/

/-- Every ampersand of a text starts a reference. -/
def Referential (cs : List Char) : Prop :=
  ∀ rest, '&' :: rest <:+ cs → StartsReference ('&' :: rest)

theorem Reference.ampersand_first {r : List Char} {c : Char} (h : Reference r c) :
    ∃ name, r = '&' :: name ∧ '&' ∉ name := by
  cases h <;> exact ⟨_, rfl, by decide⟩

theorem suffix_of_not_mem {c : Char} {front rest cs : List Char} (absent : c ∉ front)
    (suffix : c :: rest <:+ front ++ cs) : c :: rest <:+ cs := by
  induction front with
  | nil => exact suffix
  | cons d front ih =>
    rcases List.suffix_cons_iff.mp suffix with whole | later
    · exact absurd (List.cons.inj whole).1 (List.ne_of_not_mem_cons absent)
    · exact ih (List.not_mem_of_not_mem_cons absent) later

theorem referential_reference {r : List Char} {c : Char} (h : Reference r c) {cs : List Char} :
    Referential (r ++ cs) ↔ Referential cs := by
  constructor
  · intro all rest suffix
    exact all rest (suffix.trans (List.suffix_append r cs))
  · intro all rest suffix
    obtain ⟨name, rfl, absent⟩ := h.ampersand_first
    rcases List.suffix_cons_iff.mp suffix with whole | later
    · rw [whole]
      exact h.starts cs
    · exact all rest (suffix_of_not_mem absent later)

theorem referential_char {c : Char} (other : c ≠ '&') {cs : List Char} :
    Referential (c :: cs) ↔ Referential cs := by
  have absent : '&' ∉ [c] := by simpa using other.symm
  constructor
  · intro all rest suffix
    exact all rest (suffix.trans (List.suffix_cons c cs))
  · intro all rest suffix
    exact all rest (suffix_of_not_mem absent suffix)

/-- A text can be read just if every ampersand in it starts a reference. -/
theorem unescape?_isSome_iff (t : List Char) : (unescape? t).isSome ↔ Referential t := by
  induction t using reading_induction with
  | nil => simp [unescape?, Referential]
  | reference r c rest reference ih =>
    rw [unescape?_reference reference, Option.isSome_map, ih, referential_reference reference]
  | stray rest stray =>
    rw [unescape?_stray stray]
    refine iff_of_false Bool.false_ne_true fun all => ?_
    exact stray (all rest (List.suffix_refl _))
  | char c rest other ih =>
    rw [unescape?_char other, Option.isSome_map, ih, referential_char other]

/-! ### Escaped texts -/

theorem unescape?_entityOf (c : Char) (rest : List Char) :
    unescape? (entityOf c ++ rest) = (unescape? rest).map (c :: ·) := by
  rcases entityOf_read c with reference | ⟨⟨-, ampersand, -⟩, same⟩
  · exact unescape?_reference reference rest
  · rw [same]
    exact unescape?_char ampersand rest

/-- What is escaped is read as what it was. -/
theorem unescape?_flatMap (cs : List Char) : unescape? (cs.flatMap entityOf) = some cs := by
  induction cs with
  | nil => rfl
  | cons c cs ih => rw [List.flatMap_cons, unescape?_entityOf, ih, Option.map_some]

/-- Whatever can be read, and holds no markup, is what escaping gives. -/
theorem eq_flatMap_of_unescape? {t cs : List Char} (unmarked : Unmarked t)
    (read : unescape? t = some cs) : t = cs.flatMap entityOf := by
  induction t using reading_induction generalizing cs with
  | nil =>
    obtain rfl : [] = cs := Option.some.inj read
    rfl
  | reference r c rest reference ih =>
    rw [unescape?_reference reference] at read
    obtain ⟨ds, more, rfl⟩ := Option.map_eq_some_iff.mp read
    rw [List.flatMap_cons, entityOf_of_reference reference]
    exact congrArg (r ++ ·) (ih (unmarked_append.mp unmarked).2 more)
  | stray rest stray =>
    rw [unescape?_stray stray] at read
    cases read
  | char c rest other ih =>
    rw [unescape?_char other] at read
    obtain ⟨ds, more, rfl⟩ := Option.map_eq_some_iff.mp read
    have whole : Unmarked ([c] ++ rest) := unmarked
    obtain ⟨first, others⟩ := unmarked_append.mp whole
    rw [List.flatMap_cons, entityOf_of_unmarked other first]
    exact congrArg (c :: ·) (ih others more)

/-- The only text without marks that is read as a text is its escaped form. -/
theorem unescapeXml?_eq_some_iff {t s : String} :
    Unmarked t.toList ∧ unescapeXml? t = some s ↔ t = escapeXml s := by
  constructor
  · rintro ⟨unmarked, read⟩
    obtain ⟨cs, chars, rfl⟩ := Option.map_eq_some_iff.mp read
    apply String.toList_inj.mp
    rw [Text.toList_escapeXml, String.toList_ofList]
    exact eq_flatMap_of_unescape? unmarked chars
  · rintro rfl
    rw [unescapeXml?, Text.toList_escapeXml, unescape?_flatMap, Option.map_some,
      String.ofList_toList]
    exact ⟨unmarked_flatMap s.toList, rfl⟩

/-- Escaping loses nothing. Each character is written on its own, and at no time are the characters
of an entity replaced in their turn. No marks are left, each ampersand starts one of the five
references, and an escaped text is read as the text itself. -/
theorem escapeXml_lossless (s : String) :
    (escapeXml s).toList = s.toList.flatMap escapedChar ∧
      (∀ n, replaceAll (entities.take n) s.toList = s.toList.flatMap fun c =>
        if c ∈ (entities.take n).map Prod.fst then escapedChar c else [c]) ∧
      Unmarked (escapeXml s).toList ∧ Referential (escapeXml s).toList ∧
      unescapeXml? (escapeXml s) = some s := by
  have charwise := Text.toList_escapeXml s
  obtain ⟨unmarked, read⟩ := unescapeXml?_eq_some_iff.mpr (rfl : escapeXml s = escapeXml s)
  have readable : (unescape? (escapeXml s).toList).isSome := by
    rw [charwise, unescape?_flatMap, Option.isSome_some]
  refine ⟨?_, ?_, unmarked, (unescape?_isSome_iff _).mp readable, read⟩
  · rw [charwise, funext entityOf_eq]
  · intro n
    rw [Text.replaceAll_take, funext entityOf_eq]

example : escapeXml "&lt;" = "&amp;lt;" ∧ unescapeXml? "&amp;lt;" = some "&lt;" := by decide

end ScriptSuite.Xml
