import ScriptSuite.Regex.Property.Trait
import ScriptSuite.Regex.Property.Writing
import ScriptSuite.Regex.Flaw
import ScriptSuite.Regex.Syntax
import ScriptSuite.Text.Blank
import ScriptSuite.Text.CaseFolding

/-!
Flags of a pattern, and what signs mean under them.
-/

namespace ScriptSuite.Regex

/-- The flags in force at a place of a pattern. -/
structure Flags where
  /-- `i`: case does not count. -/
  caseless : Bool := false
  /-- `m`: `^` and `$` match at every line. -/
  linewise : Bool := false
  /-- `s`: a dot matches the end of a line too. -/
  dotAll : Bool := false
  /-- `U`: repetitions are lazy, and those with a question mark greedy. -/
  swapped : Bool := false
  /-- `u`: classes hold the characters of all languages. -/
  everyLanguage : Bool := true
  /-- `R`: a carriage return ends lines too. -/
  withReturn : Bool := false
  /-- `x`: blanks and comments in the pattern do not count. -/
  verbose : Bool := false
  deriving Repr, DecidableEq, Inhabited

namespace Flags

/-- Sets the flag of a letter. -/
def put? (f : Flags) (letter : Char) (on : Bool) : Option Flags :=
  match letter with
  | 'i' => some { f with caseless := on }
  | 'm' => some { f with linewise := on }
  | 's' => some { f with dotAll := on }
  | 'U' => some { f with swapped := on }
  | 'u' => some { f with everyLanguage := on }
  | 'R' => some { f with withReturn := on }
  | 'x' => some { f with verbose := on }
  | _ => none

/-! ### What does not count -/

/-- Drops blanks and comments; `inComment` says whether one has begun. -/
def skipFrom (inComment : Bool) : List Char → List Char
  | [] => []
  | c :: cs =>
    if inComment then skipFrom (c != '\n') cs
    else if Text.isBlank c then skipFrom false cs
    else if c = '#' then skipFrom true cs
    else c :: cs

/-- Drops what does not count at the front. -/
def skip (f : Flags) (cs : List Char) : List Char :=
  if f.verbose then skipFrom false cs else cs

/-- What counts of the characters up to the first `close`, and what follows that. -/
def takeUntilFrom (f : Flags) (close : Char) (inComment : Bool) :
    List Char → Option (List Char × List Char)
  | [] => none
  | c :: cs =>
    if inComment then takeUntilFrom f close (c != '\n') cs
    else if f.verbose && Text.isBlank c then takeUntilFrom f close false cs
    else if f.verbose && c = '#' then takeUntilFrom f close true cs
    else if c = close then some ([], cs)
    else (takeUntilFrom f close false cs).map fun p => (c :: p.1, p.2)

/-- What counts of the characters up to the first `close`, and what follows that. -/
def takeUntil (f : Flags) (close : Char) (cs : List Char) : Option (List Char × List Char) :=
  f.takeUntilFrom close false cs

/-! ### Sets of characters -/

/-- The letters of ASCII in either case, for those in a set. -/
def asciiFolded (set : Text.Ranges) : Text.Ranges :=
  let pairs := (List.range 26).map fun i => (0x41 + i, 0x61 + i)
  let both := pairs.filter fun p => set.contains p.1 || set.contains p.2
  set.union (Text.Ranges.ofPairs (both.flatMap fun p => [(p.1, p.1), (p.2, p.2)]))

/-- A set with all that differs in case only, if case does not count. -/
def folded (f : Flags) (set : Text.Ranges) : Text.Ranges :=
  if !f.caseless then set
  else if f.everyLanguage then set.foldClosed
  else asciiFolded set

def ascii : Text.Ranges := ⟨#[(0, 0x7F)]⟩

/-- A set as a class of its own, folded and, if `negated`, turned round. Where classes are
of ASCII alone, a class that goes beyond would match parts of characters. -/
def classOf (f : Flags) (negated : Bool) (set : Text.Ranges) : Except Flaw Text.Ranges :=
  let whole := f.folded set
  let result := if negated then whole.complement else whole
  if f.everyLanguage || (result.difference ascii).isEmpty then .ok result
  else .error .invalidUtf8

/-- The class of a letter after a backslash: digits, blanks, or what words are made of; the
capital letter stands for all else. -/
def letterClass? (f : Flags) (letter : Char) : Option (Except Flaw Text.Ranges) :=
  let table : Option Text.Ranges :=
    match letter.toLower with
    | 'd' => some (if f.everyLanguage then Property.digit else ⟨#[(0x30, 0x39)]⟩)
    | 's' => some (if f.everyLanguage then Property.space else ⟨#[(0x9, 0xD), (0x20, 0x20)]⟩)
    | 'w' =>
      some (if f.everyLanguage then Property.word
        else ⟨#[(0x30, 0x39), (0x41, 0x5A), (0x5F, 0x5F), (0x61, 0x7A)]⟩)
    | _ => none
  table.map fun set =>
    let result := if letter.isUpper then set.complement else set
    if f.everyLanguage || (result.difference ascii).isEmpty then .ok result
    else .error .invalidUtf8

/-- The classes of ASCII characters that go by a name in `[:name:]`. -/
def namedClasses : List (String × Text.Ranges) := [
  ("alnum", ⟨#[(0x30, 0x39), (0x41, 0x5A), (0x61, 0x7A)]⟩),
  ("alpha", ⟨#[(0x41, 0x5A), (0x61, 0x7A)]⟩),
  ("ascii", ⟨#[(0, 0x7F)]⟩),
  ("blank", ⟨#[(0x9, 0x9), (0x20, 0x20)]⟩),
  ("cntrl", ⟨#[(0, 0x1F), (0x7F, 0x7F)]⟩),
  ("digit", ⟨#[(0x30, 0x39)]⟩),
  ("graph", ⟨#[(0x21, 0x7E)]⟩),
  ("lower", ⟨#[(0x61, 0x7A)]⟩),
  ("print", ⟨#[(0x20, 0x7E)]⟩),
  ("punct", ⟨#[(0x21, 0x2F), (0x3A, 0x40), (0x5B, 0x60), (0x7B, 0x7E)]⟩),
  ("space", ⟨#[(0x9, 0xD), (0x20, 0x20)]⟩),
  ("upper", ⟨#[(0x41, 0x5A)]⟩),
  ("word", ⟨#[(0x30, 0x39), (0x41, 0x5A), (0x5F, 0x5F), (0x61, 0x7A)]⟩),
  ("xdigit", ⟨#[(0x30, 0x39), (0x41, 0x46), (0x61, 0x66)]⟩)]

/-- The set of a property that is named alone. -/
def property? (name : String) : Option Text.Ranges :=
  let trait := if ["cf", "sc", "lc"].contains name then none else Property.trait? name
  (trait.or (Property.category? name)).or (Property.Named.find? Property.writingSystems name)

/-- The set of characters for which a property has a value. -/
def propertyValue (property value : String) : Except Flaw Text.Ranges :=
  let found : Except Flaw (Option Text.Ranges) :=
    if ["gc", "generalcategory"].contains property then .ok (Property.category? value)
    else if ["sc", "script"].contains property then
      .ok (Property.Named.find? Property.writingSystems value)
    else .error .propertyUnknown
  match found with
  | .ok (some set) => .ok set
  | .ok none => .error .propertyValueUnknown
  | .error flaw => .error flaw

/-- Cuts a text at the first of the given signs. -/
def cutAt? (sign : List Char) : List Char → Option (List Char × List Char)
  | [] => none
  | c :: cs =>
    match Text.dropLead? sign (c :: cs) with
    | some rest => some ([], rest)
    | none => (cutAt? sign cs).map fun p => (c :: p.1, p.2)

/-- The set that the text in the braces of a property names. -/
def propertySet (text : List Char) : Except Flaw Text.Ranges :=
  match ((cutAt? ['!', '='] text).or (cutAt? [':'] text)).or (cutAt? ['='] text) with
  | some (property, value) =>
    propertyValue (Property.normalName property) (Property.normalName value)
  | none =>
    match property? (Property.normalName text) with
    | some set => .ok set
    | none => .error .propertyUnknown

def propertyClass (f : Flags) (negated : Bool) (text : List Char) : Except Flaw Text.Ranges :=
  if f.everyLanguage then do
    let set ← propertySet text
    f.classOf negated set
  else .error .needsUnicode

/-! ### Signs outside of classes -/

/-- A character that stands for itself. -/
def literal (f : Flags) (c : Char) : Expression :=
  .characters (f.folded (Text.Ranges.single c.toNat))

def dot (f : Flags) : Except Flaw Expression :=
  if !f.everyLanguage then .error .invalidUtf8
  else if f.dotAll then .ok (.characters Text.Ranges.empty.complement)
  else if f.withReturn then .ok (.characters (Text.Ranges.complement ⟨#[(0xA, 0xA), (0xD, 0xD)]⟩))
  else .ok (.characters (Text.Ranges.complement ⟨#[(0xA, 0xA)]⟩))

def caret (f : Flags) : Look :=
  if !f.linewise then .textStart else if f.withReturn then .lineStartReturn else .lineStart

def dollar (f : Flags) : Look :=
  if !f.linewise then .textEnd else if f.withReturn then .lineEndReturn else .lineEnd

end Flags
end ScriptSuite.Regex
