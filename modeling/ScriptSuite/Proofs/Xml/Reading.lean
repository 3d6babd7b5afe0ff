import ScriptSuite.Proofs.Xml.Grammar

/-!
There is one way to read a document.

Wherever a name, white space, a value, attributes or the content of an element may end, what
comes next tells that they do. So each of them is read in one way only, and a text has the markup
of one tree at most (`Markup.unique`).
-/

namespace ScriptSuite.Xml

/-! ### Runs of characters of a kind -/

/-- The text does not go on with a character of a kind. -/
def Off (kind : Char → Bool) (t : List Char) : Prop :=
  ∀ c rest, t = c :: rest → kind c = false

theorem off_cons {kind : Char → Bool} {c : Char} {t : List Char} (other : kind c = false) :
    Off kind (c :: t) := by
  rintro d rest ⟨⟩
  exact other

/-- A run of characters of a kind ends where the first character of another kind stands. -/
theorem unique_run {kind : Char → Bool} {a b t t' : List Char} (alla : ∀ c ∈ a, kind c = true)
    (allb : ∀ c ∈ b, kind c = true) (offt : Off kind t) (offt' : Off kind t')
    (same : a ++ t = b ++ t') : a = b ∧ t = t' := by
  induction a generalizing b with
  | nil =>
    cases b with
    | nil => exact ⟨rfl, same⟩
    | cons d b =>
      have first := offt d (b ++ t') same
      rw [allb d List.mem_cons_self] at first
      cases first
  | cons c a ih =>
    cases b with
    | nil =>
      have first := offt' c (a ++ t) same.symm
      rw [alla c List.mem_cons_self] at first
      cases first
    | cons d b =>
      obtain ⟨rfl, rest⟩ := List.cons.inj same
      obtain ⟨rfl, tails⟩ :=
        ih (List.forall_mem_cons.mp alla).2 (List.forall_mem_cons.mp allb).2 rest
      exact ⟨rfl, tails⟩

/-! ### Names and white space -/

/-- White space does not belong to names. -/
theorem isNameChar_of_isSpace {c : Char} (space : isSpace c = true) : isNameChar c = false := by
  simp only [isSpace, Bool.or_eq_true, decide_eq_true_eq] at space
  rcases space with ((rfl | rfl) | rfl) | rfl <;> decide

theorem Name.off {name : List Char} (named : Name name) (t : List Char) :
    Off isSpace (name ++ t) := by
  obtain ⟨c, rest, rfl, -⟩ := named.start
  refine off_cons (Bool.eq_false_iff.mpr fun space => ?_)
  have char := named.chars c List.mem_cons_self
  rw [isNameChar_of_isSpace space] at char
  cases char

theorem Spaces.off {space t : List Char} (spaces : Spaces space) (off : Off isNameChar t) :
    Off isNameChar (space ++ t) := by
  cases space with
  | nil => exact off
  | cons c space => exact off_cons (isNameChar_of_isSpace (spaces c List.mem_cons_self))

theorem Attributes.off {tag t : List Char} {attributes : List (List Char × List Char)}
    (h : Attributes tag attributes) (off : Off isNameChar t) : Off isNameChar (tag ++ t) := by
  cases h with
  | nil => exact off
  | @cons space _ _ _ _ _ _ spaces ne _ _ _ _ _ =>
    obtain ⟨c, rest, rfl⟩ := List.exists_cons_of_ne_nil ne
    exact off_cons (isNameChar_of_isSpace (spaces c List.mem_cons_self))

/-! ### Values and attributes -/

theorem Reference.head {r : List Char} {c : Char} (h : Reference r c) : ∃ rest, r = '&' :: rest := by
  cases h <;> exact ⟨_, rfl⟩

/-- A reference is read in one way, whatever follows it. -/
theorem Reference.unique {r r' t t' : List Char} {c c' : Char} (h : Reference r c)
    (h' : Reference r' c') (same : r ++ t = r' ++ t') : c = c' ∧ t = t' := by
  cases h <;> cases h' <;> simp at same ⊢ <;> exact same

/-- A value ends at the first quote of its kind, so that it is read in one way. -/
theorem Value.unique {quote : Char} (quoted : quote = '"' ∨ quote = '\'')
    {a b v w t t' : List Char} (h : Value quote a v) (h' : Value quote b w)
    (same : a ++ quote :: t = b ++ quote :: t') : v = w ∧ t = t' := by
  have noAmpersand : quote ≠ '&' := by
    rcases quoted with rfl | rfl <;> decide
  induction h generalizing b w with
  | nil =>
    cases h' with
    | nil => exact ⟨rfl, (List.cons.inj same).2⟩
    | char _ _ other _ => exact absurd (List.cons.inj same).1.symm other
    | reference reference _ =>
      obtain ⟨rest, rfl⟩ := reference.head
      exact absurd (List.cons.inj same).1 noAmpersand
  | char _ ampersand other _ ih =>
    cases h' with
    | nil => exact absurd (List.cons.inj same).1 other
    | char _ _ _ value =>
      obtain ⟨rfl, rest⟩ := List.cons.inj same
      obtain ⟨rfl, tails⟩ := ih value rest
      exact ⟨rfl, tails⟩
    | reference reference _ =>
      obtain ⟨rest, rfl⟩ := reference.head
      exact absurd (List.cons.inj same).1 ampersand
  | reference reference _ ih =>
    cases h' with
    | nil =>
      obtain ⟨rest, rfl⟩ := reference.head
      exact absurd (List.cons.inj same).1.symm noAmpersand
    | char _ ampersand _ _ =>
      obtain ⟨rest, rfl⟩ := reference.head
      exact absurd (List.cons.inj same).1.symm ampersand
    | reference reference' value =>
      rw [List.append_assoc, List.append_assoc] at same
      obtain ⟨rfl, rest⟩ := reference.unique reference' same
      obtain ⟨rfl, tails⟩ := ih value rest
      exact ⟨rfl, tails⟩

/-- A character that ends a tag. -/
def EndsTag (c : Char) : Prop :=
  isSpace c = false ∧ isNameChar c = false

theorem EndsTag.ne_name {c : Char} (h : EndsTag c) {name t t' : List Char} (named : Name name) :
    c :: t ≠ name ++ t' := by
  obtain ⟨d, rest, rfl, -⟩ := named.start
  rintro same
  have char := named.chars d List.mem_cons_self
  rw [← (List.cons.inj same).1, h.2] at char
  cases char

/-- The attributes of a tag are read in one way, up to its end. -/
theorem Attributes.unique {a b s s' t t' : List Char} {c c' : Char}
    {attributes others : List (List Char × List Char)} (h : Attributes a attributes)
    (h' : Attributes b others) (spaces : Spaces s) (spaces' : Spaces s') (ends : EndsTag c)
    (ends' : EndsTag c') (same : a ++ (s ++ c :: t) = b ++ (s' ++ c' :: t')) :
    attributes = others ∧ c = c' ∧ t = t' := by
  induction h generalizing b others with
  | nil =>
    cases h' with
    | nil =>
      obtain ⟨-, rest⟩ := unique_run spaces spaces' (off_cons ends.1) (off_cons ends'.1) same
      exact ⟨rfl, List.cons.inj rest⟩
    | cons spaces' _ named _ _ _ _ =>
      simp only [List.nil_append, List.append_assoc] at same
      obtain ⟨-, rest⟩ := unique_run spaces spaces' (off_cons ends.1) (named.off _) same
      exact absurd rest (ends.ne_name named)
  | cons spaces₁ _ named quoted value _ _ ih =>
    cases h' with
    | nil =>
      simp only [List.nil_append, List.append_assoc] at same
      obtain ⟨-, rest⟩ := unique_run spaces₁ spaces' (named.off _) (off_cons ends'.1) same
      exact absurd rest.symm (ends'.ne_name named)
    | cons spaces₂ _ named' _ value' _ more =>
      simp only [List.append_assoc, List.cons_append] at same
      obtain ⟨-, names⟩ := unique_run spaces₁ spaces₂ (named.off _) (named'.off _) same
      have equals : isNameChar '=' = false := by decide
      obtain ⟨rfl, quotes⟩ :=
        unique_run named.chars named'.chars (off_cons equals) (off_cons equals) names
      obtain ⟨rfl, values⟩ := List.cons.inj (List.cons.inj quotes).2
      obtain ⟨rfl, rests⟩ := value.unique quoted value' values
      obtain ⟨rfl, tails⟩ := ih more rests
      exact ⟨rfl, tails⟩

/-! ### Content -/

/-- The text ends or goes on with the end of an element. -/
def Stops (t : List Char) : Prop :=
  t = [] ∨ ∃ rest, t = '<' :: '/' :: rest

theorem not_stops_name {name t : List Char} (named : Name name) : ¬ Stops ('<' :: (name ++ t)) := by
  obtain ⟨c, rest, rfl, -⟩ := named.start
  rintro (none | ⟨rest, same⟩)
  · cases none
  · have char := named.chars c List.mem_cons_self
    have slash : c = '/' := (List.cons.inj (List.cons.inj same).2).1
    rw [slash] at char
    revert char
    decide

theorem not_stops_cons {c : Char} {t : List Char} (less : c ≠ '<') : ¬ Stops (c :: t) := by
  rintro (none | ⟨rest, same⟩)
  · cases none
  · exact less (List.cons.inj same).1

/-- Content is not at an end before its last item. -/
theorem Content.not_stops {cs t : List Char} {item : Item} {items : List Item}
    (h : Content cs (item :: items)) : ¬ Stops (cs ++ t) := by
  cases h with
  | char less _ _ _ => exact not_stops_cons less
  | reference reference _ =>
    obtain ⟨rest, rfl⟩ := reference.head
    exact not_stops_cons (by decide)
  | element named _ _ _ _ _ =>
    rw [List.cons_append, List.append_assoc]
    exact not_stops_name named
  | empty named _ _ _ =>
    rw [List.cons_append, List.append_assoc]
    exact not_stops_name named

/-- The tag at the start of an element is read in one way. -/
theorem unique_tag {name name' tag tag' s s' t t' : List Char} {c c' : Char}
    {attributes others : List (List Char × List Char)} (named : Name name) (named' : Name name')
    (h : Attributes tag attributes) (h' : Attributes tag' others) (spaces : Spaces s)
    (spaces' : Spaces s') (ends : EndsTag c) (ends' : EndsTag c')
    (same : name ++ (tag ++ (s ++ c :: t)) = name' ++ (tag' ++ (s' ++ c' :: t'))) :
    name = name' ∧ attributes = others ∧ c = c' ∧ t = t' := by
  obtain ⟨names, rest⟩ := unique_run named.chars named'.chars
    (h.off (spaces.off (off_cons ends.2))) (h'.off (spaces'.off (off_cons ends'.2))) same
  exact ⟨names, h.unique h' spaces spaces' ends ends' rest⟩

theorem endsTag_greater : EndsTag '>' := by
  constructor <;> decide

theorem endsTag_slash : EndsTag '/' := by
  constructor <;> decide

/-- Content is read in one way, and it ends where the text or the element does. -/
theorem Content.unique {a b t t' : List Char} {items others : List Item} (h : Content a items)
    (h' : Content b others) (stops : Stops t) (stops' : Stops t') (same : a ++ t = b ++ t') :
    items = others ∧ t = t' := by
  induction h generalizing b others t t' with
  | nil =>
    cases others with
    | nil =>
      cases h'
      exact ⟨rfl, same⟩
    | cons item others =>
      rw [List.nil_append] at same
      exact absurd (same ▸ stops) h'.not_stops
  | @char c cs items less ampersand greater first ih =>
    cases h' with
    | nil =>
      have goesOn : c :: (cs ++ t) = t' := same
      exact absurd (goesOn ▸ stops') (not_stops_cons less)
    | char _ _ _ more =>
      obtain ⟨rfl, rest⟩ := List.cons.inj same
      obtain ⟨rfl, tails⟩ := ih more stops stops' rest
      exact ⟨rfl, tails⟩
    | reference reference _ =>
      obtain ⟨rest, rfl⟩ := reference.head
      exact absurd (List.cons.inj same).1 ampersand
    | element => exact absurd (List.cons.inj same).1 less
    | empty => exact absurd (List.cons.inj same).1 less
  | reference reference first ih =>
    obtain ⟨tail, rfl⟩ := reference.head
    cases h' with
    | nil =>
      rw [List.nil_append] at same
      exact absurd (same ▸ stops') (not_stops_cons (by decide))
    | char _ ampersand _ _ => exact absurd (List.cons.inj same).1.symm ampersand
    | reference reference' more =>
      rw [List.append_assoc, List.append_assoc] at same
      obtain ⟨rfl, rest⟩ := reference.unique reference' same
      obtain ⟨rfl, tails⟩ := ih more stops stops' rest
      exact ⟨rfl, tails⟩
    | element => exact absurd (List.cons.inj same).1 (by decide)
    | empty => exact absurd (List.cons.inj same).1 (by decide)
  | element named tag spaces inner spaces' rest ihInner ihRest =>
    cases h' with
    | nil =>
      rw [List.nil_append] at same
      exact absurd (same ▸ stops') (Content.element named tag spaces inner spaces' rest).not_stops
    | char less _ _ _ => exact absurd (List.cons.inj same).1.symm less
    | reference reference _ =>
      obtain ⟨tail, rfl⟩ := reference.head
      exact absurd (List.cons.inj same).1 (by decide)
    | element named' tag' spaces₂ inner' spaces₂' rest' =>
      simp only [List.cons_append, List.append_assoc] at same
      obtain ⟨rfl, rfl, -, inners⟩ := unique_tag named named' tag tag' spaces spaces₂
        endsTag_greater endsTag_greater (List.cons.inj same).2
      obtain ⟨rfl, closes⟩ := ihInner inner' (.inr ⟨_, rfl⟩) (.inr ⟨_, rfl⟩) inners
      have ends := (List.cons.inj (List.cons.inj closes).2).2
      have rests := List.append_cancel_left ends
      obtain ⟨-, greater⟩ := unique_run spaces' spaces₂' (off_cons endsTag_greater.1)
        (off_cons endsTag_greater.1) rests
      obtain ⟨rfl, tails⟩ := ihRest rest' stops stops' (List.cons.inj greater).2
      exact ⟨rfl, tails⟩
    | empty named' tag' spaces₂ rest' =>
      simp only [List.cons_append, List.append_assoc] at same
      obtain ⟨-, -, other, -⟩ := unique_tag named named' tag tag' spaces spaces₂
        endsTag_greater endsTag_slash (List.cons.inj same).2
      exact absurd other (by decide)
  | empty named tag spaces rest ih =>
    cases h' with
    | nil =>
      rw [List.nil_append] at same
      exact absurd (same ▸ stops') (Content.empty named tag spaces rest).not_stops
    | char less _ _ _ => exact absurd (List.cons.inj same).1.symm less
    | reference reference _ =>
      obtain ⟨tail, rfl⟩ := reference.head
      exact absurd (List.cons.inj same).1 (by decide)
    | element named' tag' spaces₂ inner' spaces₂' rest' =>
      simp only [List.cons_append, List.append_assoc] at same
      obtain ⟨-, -, other, -⟩ := unique_tag named named' tag tag' spaces spaces₂
        endsTag_slash endsTag_greater (List.cons.inj same).2
      exact absurd other (by decide)
    | empty named' tag' spaces₂ rest' =>
      simp only [List.cons_append, List.append_assoc] at same
      obtain ⟨rfl, rfl, -, greater⟩ := unique_tag named named' tag tag' spaces spaces₂
        endsTag_slash endsTag_slash (List.cons.inj same).2
      obtain ⟨rfl, tails⟩ := ih rest' stops stops' (List.cons.inj greater).2
      exact ⟨rfl, tails⟩

/-! ### Documents -/

/-- The elements among the items of some content. -/
def elements (items : List Item) : List Item :=
  items.filter fun item =>
    match item with
    | .element .. => true
    | .char _ => false

@[simp]
theorem elements_append (items others : List Item) :
    elements (items ++ others) = elements items ++ elements others :=
  List.filter_append items others

@[simp]
theorem elements_chars (cs : List Char) : elements (cs.map .char) = [] := by
  simp [elements]

@[simp]
theorem elements_nil : elements [] = [] :=
  rfl

@[simp]
theorem elements_element (name : List Char) (attributes : List (List Char × List Char))
    (content items : List Item) :
    elements (.element name attributes content :: items) =
      .element name attributes content :: elements items :=
  rfl

/-- A text has the markup of one tree at most. -/
theorem Markup.unique {text : List Char} {root root' : Item} (h : Markup text root)
    (h' : Markup text root') : root = root' := by
  obtain ⟨before, element, after, _, _, _, spaces, spacesAfter, rfl, content, rfl⟩ := h
  obtain ⟨before', element', after', _, _, _, spaces', spacesAfter', rfl, content', same⟩ := h'
  have whole := (content_spaces spaces).append (content.append (content_spaces spacesAfter))
  have whole' := (content_spaces spaces').append (content'.append (content_spaces spacesAfter'))
  have texts := congrArg (· ++ []) (List.append_cancel_left same)
  obtain ⟨items, -⟩ := whole.unique whole' (.inl rfl) (.inl rfl) texts
  have roots := congrArg elements items
  simpa using roots

end ScriptSuite.Xml
