import ScriptSuite.Text.Blank
import ScriptSuite.Variable.Reference

/-!
Words of an instruction.

Words are separated by blanks; quotes of either kind group, and may stand anywhere in a
word. What stands between single quotes is literal, all else is open to substitution.
Splitting fails only for a quote that is not closed.
-/

namespace ScriptSuite

/-- A part of a word. -/
inductive Piece where
  /-- Never substituted. -/
  | literal (text : List Char)
  /-- Open to substitution. -/
  | subject (text : List Char)
  deriving DecidableEq, Repr

def Piece.chars : Piece → List Char
  | .literal text => text
  | .subject text => text

/-- A word before substitution, as a list of parts. Reading joins what is of one kind, so that in a
word that has been read literal and open parts alternate. -/
structure Word where
  pieces : List Piece
  deriving DecidableEq, Repr

namespace Word

/-- A word that is open to substitution as a whole. -/
def ofText (text : String) : Word := ⟨[.subject text.toList]⟩

/-- A word that is literal as a whole. -/
def ofLiteral (text : String) : Word := ⟨[.literal text.toList]⟩

/-- The word without characters, as a pair of quotes writes it. -/
def blank : Word := ⟨[]⟩

/-- The characters of a word, with no substitution. -/
def chars (w : Word) : List Char :=
  w.pieces.flatMap Piece.chars

/-- The text of a word, with no substitution. -/
def raw (w : Word) : String :=
  String.ofList w.chars

/-- Puts a character in front of some parts; it joins the first part if that is of its
kind. -/
def consPiece (isLiteral : Bool) (c : Char) : List Piece → List Piece
  | .literal text :: rest =>
    if isLiteral then .literal (c :: text) :: rest
    else .subject [c] :: .literal text :: rest
  | .subject text :: rest =>
    if isLiteral then .literal [c] :: .subject text :: rest
    else .subject (c :: text) :: rest
  | [] => [if isLiteral then .literal [c] else .subject [c]]

/-- Puts a character in front of a word. -/
def cons (isLiteral : Bool) (c : Char) (w : Word) : Word :=
  ⟨consPiece isLiteral c w.pieces⟩

/-- Puts the values of variables into parts, from left to right. -/
def expandPieces {m : Type → Type} [Monad m] (lookup : String → m (Option String)) :
    List Piece → m (List Char)
  | [] => pure []
  | .literal text :: rest => do
    let tail ← expandPieces lookup rest
    pure (text ++ tail)
  | .subject text :: rest => do
    let head ← Variable.expand lookup text
    let tail ← expandPieces lookup rest
    pure (head ++ tail)

/-- The argument that a word stands for. It is a single argument whatever the values hold, since
words are split before values are put in. -/
def expand {m : Type → Type} [Monad m] (lookup : String → m (Option String)) (w : Word) :
    m String := do
  let cs ← expandPieces lookup w.pieces
  pure (String.ofList cs)

/-- A quote that groups characters into a word. -/
inductive Quote where
  | single
  | double
  deriving DecidableEq, Repr

def Quote.mark : Quote → Char
  | .single => '\''
  | .double => '"'

/-- The quote that a character opens. -/
def quote? (c : Char) : Option Quote :=
  if c = Quote.single.mark then some .single
  else if c = Quote.double.mark then some .double
  else none

/-- The words of a text: the one that its first character belongs to, if that is not a
blank, and the others. -/
structure Split where
  front : Option Word
  rest : List Word
  deriving DecidableEq, Repr

/-- All words of a split text. -/
def Split.words (s : Split) : List Word :=
  s.front.toList ++ s.rest

/-- The text with a blank in front. -/
def Split.separate (s : Split) : Split :=
  ⟨none, s.words⟩

/-- The text with a character of a word in front. -/
def Split.cons (isLiteral : Bool) (c : Char) (s : Split) : Split :=
  ⟨some ((s.front.getD blank).cons isLiteral c), s.rest⟩

/-- The text with an opening quote in front. -/
def Split.start (s : Split) : Split :=
  ⟨some (s.front.getD blank), s.rest⟩

/-- Splits a text that starts inside a quote, or outside of all quotes. Fails with
the quote that is not closed. -/
def splitFrom : (inside : Option Quote) → List Char → Except Quote Split
  | none, [] => .ok ⟨none, []⟩
  | some q, [] => .error q
  | some q, c :: cs =>
    if c = q.mark then splitFrom none cs
    else (splitFrom (some q) cs).map (Split.cons (q == .single) c)
  | none, c :: cs =>
    match quote? c with
    | some q => (splitFrom (some q) cs).map Split.start
    | none =>
      if Text.isBlank c then (splitFrom none cs).map Split.separate
      else (splitFrom none cs).map (Split.cons false c)

/-- The words of a text, or the quote that is not closed. A pair of quotes around nothing is a word
without characters. -/
def splitWords (cs : List Char) : Except Quote (List Word) :=
  (splitFrom none cs).map Split.words

end Word
end ScriptSuite
