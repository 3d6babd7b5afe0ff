/-!
Well-formed XML.

This is the part of XML 1.0 that does without comments, processing instructions, sections of
character data and document types, with names in ASCII: every document of it is a well-formed
document. What a text stands for is a tree of elements and characters; that line ends and the white
space in values are normalized in it later is left out. Markup and characters have rules of their
own: a document is a text with the markup of one (`Markup`) in which all characters are allowed
(`isChar`).
-/

namespace ScriptSuite.Xml

/-! ### Characters -/

/-- The characters that a document may hold. -/
def isChar (c : Char) : Bool :=
  let n := c.toNat
  n = 0x9 || n = 0xA || n = 0xD || (0x20 ≤ n && n ≤ 0xD7FF) || (0xE000 ≤ n && n ≤ 0xFFFD)
    || (0x10000 ≤ n && n ≤ 0x10FFFF)

/-- White space. -/
def isSpace (c : Char) : Bool :=
  c = ' ' || c = '\t' || c = '\r' || c = '\n'

/-- The characters that a name may start with. -/
def isNameStart (c : Char) : Bool :=
  c.isAlpha || c = '_' || c = ':'

/-- The characters of a name. -/
def isNameChar (c : Char) : Bool :=
  isNameStart c || c.isDigit || c = '-' || c = '.'

/-- A name of an element or of an attribute. -/
structure Name (cs : List Char) : Prop where
  start : ∃ c rest, cs = c :: rest ∧ isNameStart c = true
  chars : ∀ c ∈ cs, isNameChar c = true

/-- Some white space, or none. -/
def Spaces (cs : List Char) : Prop :=
  ∀ c ∈ cs, isSpace c = true

/-! ### Documents -/

/-- What stands for a character that has a meaning in markup. -/
inductive Reference : List Char → Char → Prop where
  | ampersand : Reference ['&', 'a', 'm', 'p', ';'] '&'
  | less : Reference ['&', 'l', 't', ';'] '<'
  | greater : Reference ['&', 'g', 't', ';'] '>'
  | quote : Reference ['&', 'q', 'u', 'o', 't', ';'] '"'
  | apostrophe : Reference ['&', 'a', 'p', 'o', 's', ';'] '\''

/-- The value of an attribute between quotes of a kind, as it is written and as it is read. -/
inductive Value (quote : Char) : List Char → List Char → Prop where
  | nil : Value quote [] []
  | char {c : Char} {cs value : List Char} : c ≠ '<' → c ≠ '&' → c ≠ quote →
      Value quote cs value → Value quote (c :: cs) (c :: value)
  | reference {r cs value : List Char} {c : Char} : Reference r c → Value quote cs value →
      Value quote (r ++ cs) (c :: value)

/-- The attributes of an element. No two have one name. -/
inductive Attributes : List Char → List (List Char × List Char) → Prop where
  | nil : Attributes [] []
  | cons {space name text value rest : List Char} {quote : Char}
      {attributes : List (List Char × List Char)} :
      Spaces space → space ≠ [] → Name name → quote = '"' ∨ quote = '\'' →
      Value quote text value → (∀ other ∈ attributes, other.1 ≠ name) →
      Attributes rest attributes →
      Attributes (space ++ (name ++ '=' :: quote :: (text ++ quote :: rest)))
        ((name, value) :: attributes)

/-- What a document is made up of. -/
inductive Item where
  | char (c : Char)
  | element (name : List Char) (attributes : List (List Char × List Char)) (content : List Item)

/-- The content of an element. Elements are closed in the order opposite to that in which they have
been opened. -/
inductive Content : List Char → List Item → Prop where
  | nil : Content [] []
  | char {c : Char} {cs : List Char} {items : List Item} : c ≠ '<' → c ≠ '&' → c ≠ '>' →
      Content cs items → Content (c :: cs) (.char c :: items)
  | reference {r cs : List Char} {c : Char} {items : List Item} : Reference r c →
      Content cs items → Content (r ++ cs) (.char c :: items)
  | element {name tag space inner space' rest : List Char}
      {attributes : List (List Char × List Char)} {children items : List Item} :
      Name name → Attributes tag attributes → Spaces space → Content inner children →
      Spaces space' → Content rest items →
      Content ('<' :: (name ++ (tag ++ (space ++ '>' ::
        (inner ++ '<' :: '/' :: (name ++ (space' ++ '>' :: rest)))))))
        (.element name attributes children :: items)
  | empty {name tag space rest : List Char} {attributes : List (List Char × List Char)}
      {items : List Item} :
      Name name → Attributes tag attributes → Spaces space → Content rest items →
      Content ('<' :: (name ++ (tag ++ (space ++ '/' :: '>' :: rest))))
        (.element name attributes [] :: items)

/-- What a document starts with. -/
def declaration : List Char :=
  "<?xml version=\"1.0\" encoding=\"UTF-8\"?>".toList

/-- A text has the markup of a document: one element holds all others. -/
def Markup (text : List Char) (root : Item) : Prop :=
  ∃ before element after name attributes content, Spaces before ∧ Spaces after ∧
    root = .element name attributes content ∧ Content element [root] ∧
    text = declaration ++ (before ++ (element ++ after))

/-- A document has the markup of one, and no characters but those that are allowed. -/
structure Document (text : List Char) (root : Item) : Prop where
  markup : Markup text root
  chars : ∀ c ∈ text, isChar c = true

/-! ### Contents one after another -/

/-- Content may follow content. -/
theorem Content.append {cs ds : List Char} {items others : List Item} (first : Content cs items)
    (second : Content ds others) : Content (cs ++ ds) (items ++ others) := by
  induction first with
  | nil => exact second
  | char less ampersand greater _ ih => exact .char less ampersand greater ih
  | reference reference _ ih =>
    rw [List.append_assoc]
    exact .reference reference ih
  | element name tag spaces inner spaces' _ _ ih =>
    simpa using Content.element name tag spaces inner spaces' ih
  | empty name tag spaces _ ih => simpa using Content.empty name tag spaces ih

theorem ne_of_isSpace {c : Char} (space : isSpace c = true) : c ≠ '<' ∧ c ≠ '&' ∧ c ≠ '>' := by
  simp only [isSpace, Bool.or_eq_true, decide_eq_true_eq] at space
  rcases space with ((rfl | rfl) | rfl) | rfl <;> decide

theorem content_spaces {cs : List Char} (spaces : Spaces cs) : Content cs (cs.map .char) := by
  induction cs with
  | nil => exact .nil
  | cons c cs ih =>
    obtain ⟨space, rest⟩ := List.forall_mem_cons.mp spaces
    obtain ⟨less, ampersand, greater⟩ := ne_of_isSpace space
    exact .char less ampersand greater (ih rest)

end ScriptSuite.Xml
