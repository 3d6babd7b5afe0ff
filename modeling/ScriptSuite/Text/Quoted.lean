import ScriptSuite.Text.Unprintable

/-!
Quoted text, as messages show names.

A quoted string stands between double quotes and shows every character that could
mislead a reader as an escape: the quote itself, the backslash, the common control
characters by a letter, and what is invisible or would join its neighbour by its
code point.
-/

namespace ScriptSuite.Text

/-- The escape by code point, in lower-case hexadecimal. -/
def escapePoint (c : Char) : List Char :=
  ['\\', 'u', '{'] ++ Nat.toDigits 16 c.toNat ++ ['}']

/-- A character inside quotes of the kind `mark`. -/
def escapeChar (mark c : Char) : List Char :=
  if c = mark || c = '\\' then ['\\', c]
  else if c = '\n' then ['\\', 'n']
  else if c = '\t' then ['\\', 't']
  else if c = '\r' then ['\\', 'r']
  else if c.toNat = 0 then ['\\', '0']
  else if ' ' ≤ c && c ≤ '~' then [c]
  else if extending.holds c || unprintable.holds c then escapePoint c
  else [c]

def doubleMark : Char := '"'

def singleMark : Char := '\''

/-- A string between double quotes. -/
def quoted (s : String) : String :=
  String.ofList (doubleMark :: s.toList.flatMap (escapeChar doubleMark) ++ [doubleMark])

/-- A character between single quotes. -/
def quotedChar (c : Char) : String :=
  String.ofList (singleMark :: escapeChar singleMark c ++ [singleMark])

/-- Quoted strings in brackets, with `sep` between each two. -/
def quotedList (sep : String) (items : List String) : String :=
  "[" ++ sep.intercalate (items.map quoted) ++ "]"

end ScriptSuite.Text
