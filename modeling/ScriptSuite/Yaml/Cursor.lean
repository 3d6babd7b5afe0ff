import ScriptSuite.Yaml.Flaw

/-!
Places in a YAML text.

Columns decide about nesting, so a cursor counts them. A line ends with a carriage return,
a line feed or both, or with one of the three other signs that separate lines.
-/

namespace ScriptSuite.Yaml

/-- Whether a character ends a line. -/
def isBreak (c : Char) : Bool :=
  c = '\n' || c = '\r' || c.toNat = 0x85 || c.toNat = 0x2028 || c.toNat = 0x2029

/-- Whether a character is a space or a tab. -/
def isBlank (c : Char) : Bool := c = ' ' || c = '\t'

/-- Whether a character is no part of a word. -/
def isGap (c : Char) : Bool := isBlank c || isBreak c

/-- Whether a word ends before a character, or at the end of the text. -/
def isGapOrEnd : Option Char → Bool
  | none => true
  | some c => isGap c

/-- Whether a line ends before a character, or at the end of the text. -/
def isBreakOrEnd : Option Char → Bool
  | none => true
  | some c => isBreak c

/-- Whether a character may stand in a text. -/
def isAllowed (c : Char) : Bool :=
  let n := c.toNat
  n = 0x9 || n = 0xA || n = 0xD || (0x20 ≤ n && n ≤ 0x7E) || n = 0x85
    || (0xA0 ≤ n && n ≤ 0xFFFD) || 0x10000 ≤ n

/-- Whether a character may stand in the name of an anchor. -/
def isNameLetter (c : Char) : Bool := c.isAlphanum || c = '_' || c = '-'

/-- A place in a text: what follows, and where it is. -/
structure Cursor where
  rest : List Char
  index : Nat
  line : Nat
  column : Nat
  deriving Inhabited

namespace Cursor

/-- The start of a text. -/
def ofText (cs : List Char) : Cursor := ⟨cs, 0, 0, 0⟩

def peek (c : Cursor) : Option Char := c.rest.head?

/-- The character after `n` others. -/
def ahead (c : Cursor) (n : Nat) : Option Char := c.rest[n]?

/-- Goes on by `n` characters of a line. -/
def skip (c : Cursor) (n : Nat) : Cursor :=
  let n := min n c.rest.length
  ⟨c.rest.drop n, c.index + n, c.line, c.column + n⟩

/-- Goes on to the next line, if this one ends here: what the end of the line stands for,
and the place after it. -/
def nextLine? (c : Cursor) : Option (Char × Cursor) :=
  match c.rest with
  | '\r' :: '\n' :: rest => some ('\n', ⟨rest, c.index + 2, c.line + 1, 0⟩)
  | e :: rest =>
    if isBreak e then
      let sign := if e.toNat = 0x2028 || e.toNat = 0x2029 then e else '\n'
      some (sign, ⟨rest, c.index + 1, c.line + 1, 0⟩)
    else none
  | [] => none

/-- The characters as long as they pass a test, and the place after them. The test has to
refuse the ends of lines. -/
def span (c : Cursor) (test : Char → Bool) : List Char × Cursor :=
  let taken := c.rest.takeWhile test
  (taken, c.skip taken.length)

/-- The rest of the line, and its end. -/
def line? (c : Cursor) : List Char × Cursor := c.span fun e => !isBreak e

/-- Whether three signs that separate documents stand here. -/
def isMarker (c : Cursor) (sign : Char) : Bool :=
  c.column = 0 && c.rest.take 3 = [sign, sign, sign] && isGapOrEnd (c.ahead 3)

/-- Whether documents are separated here. -/
def isAnyMarker (c : Cursor) : Bool := c.isMarker '-' || c.isMarker '.'

end Cursor
end ScriptSuite.Yaml
