import Mathlib.Data.List.Forall2
import ScriptSuite.Cli.Report
import ScriptSuite.Proofs.Xml.Escaping
import ScriptSuite.Proofs.Xml.Reading

/-!
JUnit reports as XML.

All that a report takes from results is written character by character, so that it is read as
what it was (`content_escapeXml`, `value_escapeXml`) and never as markup. So a report always has
the markup of a document that tells of each result (`Describes`). It is a document unless one of
the results has a character that XML does not allow at all, since such a character is written as it
is (`junit_document_iff`).
-/

namespace ScriptSuite

open Text (escapeXml entityOf)

namespace Xml

/-! ### Texts that are escaped -/

theorem content_flatMap (cs : List Char) : Content (cs.flatMap entityOf) (cs.map .char) := by
  induction cs with
  | nil => exact .nil
  | cons c cs ih =>
    rw [List.flatMap_cons, List.map_cons]
    rcases entityOf_read c with reference | ⟨⟨less, ampersand, greater, -⟩, same⟩
    · exact .reference reference ih
    · rw [same]
      exact .char less ampersand greater ih

theorem value_flatMap (cs : List Char) : Value '"' (cs.flatMap entityOf) cs := by
  induction cs with
  | nil => exact .nil
  | cons c cs ih =>
    rw [List.flatMap_cons]
    rcases entityOf_read c with reference | ⟨⟨less, ampersand, -, quote, -⟩, same⟩
    · exact .reference reference ih
    · rw [same]
      exact .char less ampersand quote ih

/-- An escaped text is read as the text itself in the content of an element. -/
theorem content_escapeXml (s : String) : Content (escapeXml s).toList (s.toList.map .char) := by
  rw [Text.toList_escapeXml]
  exact content_flatMap s.toList

/-- An escaped text is read as the text itself in the value of an attribute. -/
theorem value_escapeXml (s : String) : Value '"' (escapeXml s).toList s.toList := by
  rw [Text.toList_escapeXml]
  exact value_flatMap s.toList

/-! ### Elements -/

theorem name_of_all {cs : List Char} (start : cs.head?.any isNameStart = true)
    (all : cs.all isNameChar = true) : Name cs := by
  constructor
  · cases cs with
    | nil => cases start
    | cons c rest => exact ⟨c, rest, rfl, start⟩
  · exact List.all_eq_true.mp all

/-- Attributes as they are written one after another. -/
def written (attributes : List (String × String)) : List Char :=
  attributes.flatMap fun a => (Cli.xmlAttribute a.1 a.2).toList

/-- Attributes as they are read. -/
def readAs (attributes : List (String × String)) : List (List Char × List Char) :=
  attributes.map fun a => (a.1.toList, a.2.toList)

/-- Attributes that can be written. -/
structure Proper (attributes : List (String × String)) : Prop where
  names : ∀ a ∈ attributes, Name a.1.toList
  distinct : (attributes.map Prod.fst).Nodup

/-- Attributes with names of their own are read as they were written, values included. -/
theorem attributes_written {attributes : List (String × String)} (proper : Proper attributes) :
    Attributes (written attributes) (readAs attributes) := by
  induction attributes with
  | nil => exact .nil
  | cons a rest ih =>
    obtain ⟨name, names⟩ := List.forall_mem_cons.mp proper.names
    obtain ⟨fresh, distinct⟩ := List.nodup_cons.mp proper.distinct
    have space : Spaces [' '] := by
      intro c mem
      cases List.mem_singleton.mp mem
      rfl
    have others : ∀ other ∈ readAs rest, other.1 ≠ a.1.toList := by
      intro other mem same
      obtain ⟨b, there, rfl⟩ := List.mem_map.mp mem
      have equal : b.1 = a.1 := String.toList_inj.mp same
      exact fresh (equal ▸ List.mem_map_of_mem there)
    have whole := Attributes.cons space (List.cons_ne_nil _ _) name (.inl rfl)
      (value_escapeXml a.2) others (ih ⟨names, distinct⟩)
    simpa [written, readAs, Cli.xmlAttribute] using whole

/-- An element as it is written around its content. -/
def around (name : String) (attributes : List (String × String)) (inner : List Char) : List Char :=
  '<' :: (name.toList ++ (written attributes ++ '>' ::
    (inner ++ '<' :: '/' :: (name.toList ++ ['>']))))

/-- An element around content is content again, with the element as its only item. Nothing is asked
of the content but that it is some. -/
theorem content_around {name : String} {attributes : List (String × String)} {inner : List Char}
    {children : List Item} (named : Name name.toList) (proper : Proper attributes)
    (content : Content inner children) :
    Content (around name attributes inner)
      [.element name.toList (readAs attributes) children] := by
  have none : Spaces [] := nofun
  exact .element named (attributes_written proper) none content none .nil

theorem content_empty {name : String} {attributes : List (String × String)}
    (named : Name name.toList) (proper : Proper attributes) :
    Content ('<' :: (name.toList ++ (written attributes ++ ['/', '>'])))
      [.element name.toList (readAs attributes) []] := by
  have none : Spaces [] := nofun
  exact .empty named (attributes_written proper) none .nil

/-- A text is content with these elements, and has other characters at most. -/
def HasElements (cs : List Char) (els : List Item) : Prop :=
  ∃ items, Content cs items ∧ elements items = els

theorem HasElements.append {cs ds : List Char} {els others : List Item}
    (first : HasElements cs els) (second : HasElements ds others) :
    HasElements (cs ++ ds) (els ++ others) := by
  obtain ⟨items, content, rfl⟩ := first
  obtain ⟨more, content', rfl⟩ := second
  exact ⟨items ++ more, content.append content', elements_append items more⟩

theorem hasElements_spaces {cs : List Char} (spaces : Spaces cs) : HasElements cs [] :=
  ⟨_, content_spaces spaces, elements_chars cs⟩

theorem HasElements.within {cs front back : List Char} {els : List Item} (h : HasElements cs els)
    (spaces : Spaces front) (spaces' : Spaces back) : HasElements (front ++ (cs ++ back)) els := by
  have padded := (hasElements_spaces spaces).append (h.append (hasElements_spaces spaces'))
  rwa [List.append_nil, List.nil_append] at padded

end Xml

namespace Cli

open Xml

/-! ### What a report tells -/

/-- What is said about a failure, if there is one. -/
def messages (r : ScriptResult) : List String :=
  r.failure.toList.map Failure.message

/-- The element that tells what became of a script that has not passed. It goes by the outcome
alone: a reason or a failure that is missing is told as an empty reason, or in words of its own. -/
def outcomeElements (r : ScriptResult) : List Item :=
  match r.outcome with
  | .passed => []
  | .skipped => [.element "skipped".toList (readAs [("message", r.skipReason.getD "")]) []]
  | .failed =>
    [.element "failure".toList (readAs [("message", headline r.failure)])
      (("\n" ++ placeOf r ++ "\n" ++ unlines (messages r) ++ "      ").toList.map .char)]

/-- The element with the log of a script, if there is one. -/
def logElements (r : ScriptResult) : List Item :=
  if r.log = "" then [] else [.element "system-out".toList (readAs []) (r.log.toList.map .char)]

/-- An element tells of a result. -/
def DescribesCase (item : Item) (r : ScriptResult) : Prop :=
  ∃ content, elements content = outcomeElements r ++ logElements r ∧
    item = .element "testcase".toList (readAs [("name", r.name), ("classname", r.path.shown),
      ("time", r.duration.secondsToMillis)]) content

/-- What a report says of all results together. -/
def totalAttributes (total : Duration) (results : List ScriptResult) : List (String × String) :=
  [("tests", toString results.length),
    ("failures", toString (results.countP fun r => r.outcome = .failed)),
    ("time", total.secondsToMillis)]

/-- What a report says of its only suite, which holds all results. -/
def suiteAttributes (total : Duration) (results : List ScriptResult) : List (String × String) :=
  [("name", "scriptest"), ("tests", toString results.length),
    ("failures", toString (results.countP fun r => r.outcome = .failed)),
    ("skipped", toString (results.countP fun r => r.outcome = .skipped)),
    ("time", total.secondsToMillis)]

/-- A document counts the results, and tells of each of them in one element, in their order. -/
def Describes (total : Duration) (results : List ScriptResult) (root : Item) : Prop :=
  ∃ outer inner, List.Forall₂ DescribesCase (elements inner) results ∧
    elements outer =
      [.element "testsuite".toList (readAs (suiteAttributes total results)) inner] ∧
    root = .element "testsuites".toList (readAs (totalAttributes total results)) outer

/-- What a report takes from a result to tell what became of its script. -/
def textsOfOutcome (r : ScriptResult) : List String :=
  match r.outcome with
  | .passed => []
  | .skipped => r.skipReason.toList
  | .failed => messages r

/-- What a report takes from a result. -/
def textsOf (r : ScriptResult) : List String :=
  [r.name, r.path.shown, r.log] ++ textsOfOutcome r

/-! ### Lines of a report -/

theorem toList_unlines (lines : List String) :
    (unlines lines).toList = lines.flatMap fun line => line.toList ++ ['\n'] := by
  rw [unlines, String.toList_join, List.flatMap_map]
  simp

/-- The lines of a report for the outcome of a result. -/
def outcomeLines (r : ScriptResult) : List String :=
  match r.outcome with
  | .passed => []
  | .skipped => ["      <skipped" ++ xmlAttribute "message" (r.skipReason.getD "") ++ "/>"]
  | .failed =>
    [ "      <failure" ++ xmlAttribute "message" (headline r.failure) ++ ">",
      Text.escapeXml (placeOf r) ]
      ++ (r.failure.toList.map fun f => Text.escapeXml f.message)
      ++ ["      </failure>"]

/-- The lines of a report for the log of a result. -/
def logLines (r : ScriptResult) : List String :=
  if r.log = "" then []
  else ["      <system-out>" ++ Text.escapeXml r.log ++ "</system-out>"]

theorem junitCase_eq (r : ScriptResult) :
    junitCase r =
      ["    <testcase" ++ xmlAttribute "name" r.name ++ xmlAttribute "classname" r.path.shown
        ++ xmlAttribute "time" r.duration.secondsToMillis ++ ">"]
        ++ outcomeLines r ++ logLines r ++ ["    </testcase>"] :=
  rfl

theorem spaces_of_all {cs : List Char} (all : cs.all isSpace = true) : Spaces cs :=
  List.all_eq_true.mp all

/-- The names of the attributes in reports. -/
def attributeNames : List String :=
  ["message", "name", "classname", "tests", "failures", "skipped", "time"]

theorem proper_of_names {attributes : List (String × String)}
    (names : ∀ a ∈ attributes, a.1 ∈ attributeNames)
    (distinct : (attributes.map Prod.fst).Nodup) : Proper attributes := by
  have known : ∀ name ∈ attributeNames, name.toList.head?.any isNameStart = true ∧
      name.toList.all isNameChar = true := by decide
  refine ⟨?_, distinct⟩
  intro a mem
  obtain ⟨start, all⟩ := known a.1 (names a mem)
  exact name_of_all start all

theorem proper_message (text : String) : Proper [("message", text)] := by
  apply proper_of_names <;> simp [attributeNames]

/-- The lines for a failure are read as what they tell. -/
theorem content_messages (r : ScriptResult) :
    Content (unlines (r.failure.toList.map fun f => escapeXml f.message)).toList
      ((unlines (messages r)).toList.map .char) := by
  have feed : Spaces ['\n'] := spaces_of_all (by decide)
  rw [messages, toList_unlines, toList_unlines]
  cases r.failure with
  | none => exact .nil
  | some f => simpa using (content_escapeXml f.message).append (content_spaces feed)

/-- What is shown of an outcome is the element for it, or nothing for a script that has passed. -/
theorem hasElements_outcomeLines (r : ScriptResult) :
    HasElements (unlines (outcomeLines r)).toList (outcomeElements r) := by
  have indent : Spaces "      ".toList := spaces_of_all (by decide)
  have feed : Spaces ['\n'] := spaces_of_all (by decide)
  rw [outcomeLines, outcomeElements]
  cases ended : r.outcome with
  | passed => exact ⟨[], .nil, rfl⟩
  | skipped =>
    have named : Name "skipped".toList := name_of_all (by decide) (by decide)
    have element : HasElements _ _ :=
      ⟨_, content_empty named (proper_message (r.skipReason.getD "")), rfl⟩
    simpa [toList_unlines, written, around] using element.within indent feed
  | failed =>
    have named : Name "failure".toList := name_of_all (by decide) (by decide)
    have inner := (content_spaces feed).append ((content_escapeXml (placeOf r)).append
      ((content_spaces feed).append ((content_messages r).append (content_spaces indent))))
    have element : HasElements _ _ :=
      ⟨_, content_around named (proper_message (headline r.failure)) inner, rfl⟩
    simpa [toList_unlines, written, around] using element.within indent feed

theorem hasElements_logLines (r : ScriptResult) :
    HasElements (unlines (logLines r)).toList (logElements r) := by
  have indent : Spaces "      ".toList := spaces_of_all (by decide)
  have feed : Spaces ['\n'] := spaces_of_all (by decide)
  rw [logLines, logElements]
  split
  · exact ⟨[], .nil, rfl⟩
  · have named : Name "system-out".toList := name_of_all (by decide) (by decide)
    have none : Proper [] := ⟨nofun, List.nodup_nil⟩
    have element : HasElements _ _ :=
      ⟨_, content_around named none (content_escapeXml r.log), rfl⟩
    simpa [toList_unlines, written, around] using element.within indent feed

/-- The lines for a result are content with one element, and that tells of the result. -/
theorem hasElements_junitCase (r : ScriptResult) :
    ∃ item, HasElements (unlines (junitCase r)).toList [item] ∧ DescribesCase item r := by
  have indent : Spaces "    ".toList := spaces_of_all (by decide)
  have feed : Spaces ['\n'] := spaces_of_all (by decide)
  have lines := (hasElements_outcomeLines r).append (hasElements_logLines r)
  obtain ⟨content, inner, same⟩ := lines.within feed indent
  have named : Name "testcase".toList := name_of_all (by decide) (by decide)
  have proper : Proper [("name", r.name), ("classname", r.path.shown),
      ("time", r.duration.secondsToMillis)] := by
    apply proper_of_names <;> simp [attributeNames]
  have element : HasElements _ _ := ⟨_, content_around named proper inner, rfl⟩
  refine ⟨_, ?_, content, same, rfl⟩
  simpa [junitCase_eq, toList_unlines, written, around] using element.within indent feed

/-- The lines for all results are content with one element for each, in their order. -/
theorem hasElements_junitCases (results : List ScriptResult) :
    ∃ els, HasElements (unlines (results.flatMap junitCase)).toList els ∧
      List.Forall₂ DescribesCase els results := by
  induction results with
  | nil => exact ⟨[], ⟨[], .nil, rfl⟩, .nil⟩
  | cons r rest ih =>
    obtain ⟨item, case_, tells⟩ := hasElements_junitCase r
    obtain ⟨els, cases_, all⟩ := ih
    refine ⟨item :: els, ?_, .cons tells all⟩
    have whole := case_.append cases_
    rwa [toList_unlines, toList_unlines, ← List.flatMap_append, ← toList_unlines] at whole

/-! ### Whole reports -/

theorem countOf_eq (outcome : Outcome) (results : List ScriptResult) :
    countOf outcome results = results.countP fun r => r.outcome = outcome :=
  List.countP_eq_length_filter.symm

theorem proper_totalAttributes (total : Duration) (results : List ScriptResult) :
    Proper (totalAttributes total results) := by
  apply proper_of_names <;> simp [totalAttributes, attributeNames]

theorem proper_suiteAttributes (total : Duration) (results : List ScriptResult) :
    Proper (suiteAttributes total results) := by
  apply proper_of_names <;> simp [suiteAttributes, attributeNames]

/-- A report is one element in another, and the lines for the results are in the inner one. -/
theorem toList_junit (total : Duration) (results : List ScriptResult) :
    (junit total results).toList = declaration ++ (['\n'] ++
      (around "testsuites" (totalAttributes total results) ("\n  ".toList ++
        (around "testsuite" (suiteAttributes total results)
          (['\n'] ++ ((unlines (results.flatMap junitCase)).toList ++ "  ".toList)) ++ ['\n'])) ++
        ['\n'])) := by
  generalize cases_ : (unlines (results.flatMap junitCase)).toList = lines
  rw [toList_unlines] at cases_
  rw [junit, toList_unlines, List.flatMap_append, List.flatMap_append, cases_]
  simp only [around, written, totalAttributes, suiteAttributes, countOf_eq, List.flatMap_cons,
    List.flatMap_nil, String.toList_append]
  -- the attributes are the same on both sides
  generalize xmlAttribute = attr
  simp only [List.append_assoc, List.cons_append, List.nil_append, List.append_nil]
  rfl

/-- A report has the markup of a document that tells of all results. -/
theorem markup_junit (total : Duration) (results : List ScriptResult) :
    ∃ root, Markup (junit total results).toList root ∧ Describes total results root := by
  have feed : Spaces ['\n'] := spaces_of_all (by decide)
  have indent : Spaces "  ".toList := spaces_of_all (by decide)
  have start : Spaces "\n  ".toList := spaces_of_all (by decide)
  have named : Name "testsuite".toList := name_of_all (by decide) (by decide)
  have named' : Name "testsuites".toList := name_of_all (by decide) (by decide)
  obtain ⟨els, cases_, tells⟩ := hasElements_junitCases results
  obtain ⟨inner, content, rfl⟩ := cases_.within feed indent
  have suite : HasElements _ _ :=
    ⟨_, content_around named (proper_suiteAttributes total results) content, rfl⟩
  obtain ⟨outer, content', one⟩ := suite.within start feed
  have root := content_around named' (proper_totalAttributes total results) content'
  refine ⟨_, ?_, outer, inner, tells, one, rfl⟩
  exact ⟨_, _, _, _, _, _, feed, feed, rfl, root, toList_junit total results⟩

/-! ### Characters that are allowed -/

/-- All characters of a text are allowed. -/
def Legal (s : String) : Prop :=
  ∀ c ∈ s.toList, isChar c = true

theorem legal_iff_all (s : String) : Legal s ↔ s.toList.all isChar = true :=
  List.all_eq_true.symm

instance (s : String) : Decidable (Legal s) :=
  decidable_of_iff _ (legal_iff_all s).symm

@[simp]
theorem legal_append (s t : String) : Legal (s ++ t) ↔ Legal s ∧ Legal t := by
  rw [Legal, String.toList_append, List.forall_mem_append]
  rfl

theorem all_entityOf (c : Char) : (entityOf c).all isChar = isChar c := by
  rcases entityOf_read c with reference | ⟨-, same⟩
  · generalize entityOf c = r at reference
    cases reference <;> rfl
  · simp [same]

/-- Characters that are not allowed are written as they are. -/
@[simp]
theorem legal_escapeXml (s : String) : Legal (escapeXml s) ↔ Legal s := by
  rw [legal_iff_all, legal_iff_all, Text.toList_escapeXml, List.all_flatMap]
  simp only [all_entityOf]

@[simp]
theorem legal_xmlAttribute (name value : String) :
    Legal (xmlAttribute name value) ↔ Legal name ∧ Legal value := by
  simp +decide [xmlAttribute]

@[simp]
theorem legal_unlines (lines : List String) :
    Legal (unlines lines) ↔ ∀ line ∈ lines, Legal line := by
  have feed : ∀ c ∈ ['\n'], isChar c = true := List.all_eq_true.mp rfl
  rw [Legal, toList_unlines, List.forall_mem_flatMap]
  refine forall₂_congr fun line _ => ?_
  rw [List.forall_mem_append, and_iff_left feed]
  rfl

theorem isChar_of_isDigit {c : Char} (digit : c.isDigit = true) : isChar c = true := by
  simp only [Char.isDigit, Bool.and_eq_true, decide_eq_true_eq, ge_iff_le,
    UInt32.le_iff_toNat_le] at digit
  have value : c.toNat = c.val.toNat := rfl
  have bounds : '0'.val.toNat = 48 ∧ '9'.val.toNat = 57 := by decide
  simp only [isChar, Bool.or_eq_true, Bool.and_eq_true, decide_eq_true_eq]
  omega

theorem isDigit_of_mem_digitsOf {n : Nat} {c : Char} (mem : c ∈ Text.digitsOf n) :
    c.isDigit = true :=
  Nat.isDigit_of_mem_toDigits (by decide) (by decide) mem

@[simp]
theorem legal_repr (n : Nat) : Legal n.repr := by
  intro c mem
  rw [Nat.toList_repr] at mem
  exact isChar_of_isDigit (isDigit_of_mem_digitsOf mem)

@[simp]
theorem legal_secondsToMillis (d : Duration) : Legal d.secondsToMillis := by
  intro c mem
  rw [Duration.secondsToMillis, String.toList_ofList, Text.withPlaces] at mem
  simp only [Text.padded, List.mem_append, List.mem_cons, List.mem_replicate] at mem
  rcases mem with mem | rfl | ⟨-, rfl⟩ | mem
  · exact isChar_of_isDigit (isDigit_of_mem_digitsOf mem)
  · decide
  · decide
  · exact isChar_of_isDigit (isDigit_of_mem_digitsOf mem)

theorem legal_placeOf (r : ScriptResult) : Legal (placeOf r) ↔ Legal r.path.shown := by
  rw [placeOf]
  split
  · simp +decide
  · rfl

/-- The first line of a text has characters of the text alone. -/
theorem legal_headD {s : String} (legal : Legal s) : Legal ((linesOf s).headD "") := by
  rw [linesOf, Text.lineTexts]
  have whole := Text.flatten_splitLines s.toList
  cases lines : Text.splitLines s.toList with
  | nil => decide
  | cons raw rest =>
    intro c mem
    simp only [List.map_cons, List.headD_cons, String.toList_ofList] at mem
    apply legal c
    rw [← whole, lines, List.flatten_cons, ← Text.splitEnding_append raw]
    exact List.mem_append_left _ (List.mem_append_left _ mem)

theorem legal_logLines (r : ScriptResult) :
    (∀ line ∈ logLines r, Legal line) ↔ Legal r.log := by
  rw [logLines]
  split
  case isTrue none => simp +decide [none]
  case isFalse => simp +decide

/-- Of what is shown of an outcome only the texts can hold characters that a document may not. -/
theorem legal_outcomeLines {r : ScriptResult} (path : Legal r.path.shown) :
    (∀ line ∈ outcomeLines r, Legal line) ↔ ∀ text ∈ textsOfOutcome r, Legal text := by
  rw [outcomeLines, textsOfOutcome]
  cases r.outcome with
  | passed => simp
  | skipped => cases reason : r.skipReason <;> simp +decide
  | failed =>
    cases failure : r.failure with
    | none => simp +decide [messages, headline, failure, legal_placeOf, path]
    | some f =>
      have first : Legal f.message → Legal (headline (some f)) := legal_headD
      simpa +decide [messages, failure, legal_placeOf, path] using first

theorem legal_junitCase (r : ScriptResult) :
    (∀ line ∈ junitCase r, Legal line) ↔ ∀ text ∈ textsOf r, Legal text := by
  rw [junitCase_eq, textsOf, List.forall_mem_append, List.forall_mem_append,
    List.forall_mem_append, List.forall_mem_append, legal_logLines]
  simp +decide only [List.forall_mem_cons, legal_append, legal_xmlAttribute,
    legal_secondsToMillis, true_and, and_true]
  constructor
  · rintro ⟨⟨⟨name, path⟩, outcome⟩, log⟩
    exact ⟨⟨name, path, log⟩, (legal_outcomeLines path).mp outcome⟩
  · rintro ⟨⟨name, path, log⟩, outcome⟩
    exact ⟨⟨⟨name, path⟩, (legal_outcomeLines path).mpr outcome⟩, log⟩

/-- A report has only legal characters if and only if the texts of all results do: the layout adds
none that is not legal, and escaping takes none away. -/
theorem legal_junit (total : Duration) (results : List ScriptResult) :
    Legal (junit total results) ↔ ∀ r ∈ results, ∀ text ∈ textsOf r, Legal text := by
  rw [junit, legal_unlines, List.forall_mem_append, List.forall_mem_append,
    List.forall_mem_flatMap]
  simp only [legal_junitCase]
  simp +decide

/-- A report always has the markup of one document, which tells of all results. It is that document
just if all characters that it takes from results are allowed. -/
theorem junit_document_iff (total : Duration) (results : List ScriptResult) :
    ∃ root, Describes total results root ∧
      (∀ other, Markup (junit total results).toList other ↔ other = root) ∧
      (Document (junit total results).toList root ↔
        ∀ r ∈ results, ∀ text ∈ textsOf r, Legal text) := by
  obtain ⟨root, markup, tells⟩ := markup_junit total results
  refine ⟨root, tells, ?_, ?_⟩
  · intro other
    constructor
    · intro markup'
      exact markup'.unique markup
    · rintro rfl
      exact markup
  · rw [← legal_junit total]
    constructor
    · intro document
      exact document.chars
    · intro legal
      exact ⟨markup, legal⟩

/-- A script that was skipped for a reason with colours of a terminal in it. -/
def colouredResult : ScriptResult where
  name := "t"
  path := Path.mk "./t.txt"
  outcome := .skipped
  duration := .zero
  failure := none
  skipReason := some "\x1b[31mred"
  isUpdated := false
  warnings := []
  log := "> skip '\x1b[31mred'\nskip: \x1b[31mred\n"

/-- The character that starts the colours is not allowed, and it is written as it is. -/
theorem not_document_of_colours :
    ¬ ∃ root, Document (junit .zero [colouredResult]).toList root := by
  rintro ⟨root, document⟩
  have reason : "\x1b[31mred" ∈ textsOf colouredResult := by
    simp [textsOf, textsOfOutcome, colouredResult]
  have legal : Legal "\x1b[31mred" :=
    (legal_junit .zero [colouredResult]).mp document.chars _ List.mem_cons_self _ reason
  revert legal
  decide

end Cli
end ScriptSuite
