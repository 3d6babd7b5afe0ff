import ScriptSuite.Text.Blank

/-!
The language of the shell.

Parts of words that stand for something else are kept as they are written, and are read
when they are needed.
-/

namespace ScriptSuite.Shell

/-- What is asked of a parameter. Where a value is missing, `orEmpty` says whether an empty
one is missing too. -/
inductive Demand where
  | value
  | length
  /-- Another text in the place of a missing value. -/
  | default (orEmpty : Bool)
  /-- The same, and the parameter is set to that text. -/
  | assigned (orEmpty : Bool)
  /-- Another text in the place of a value that is not missing. -/
  | alternative (orEmpty : Bool)
  /-- A complaint about a missing value. -/
  | required (orEmpty : Bool)
  /-- The value without what a pattern matches at its front. -/
  | withoutFront (isLongest : Bool)
  /-- The value without what a pattern matches at its end. -/
  | withoutEnd (isLongest : Bool)
  | unknown
  deriving DecidableEq, Repr

/-- A part of a word. Unquoted values are split into fields. -/
inductive Part where
  | text (isQuoted : Bool) (cs : List Char)
  /-- What is asked of a parameter, and the word that goes with that. -/
  | parameter (isQuoted : Bool) (name : List Char) (demand : Demand) (word : List Char)
  /-- What a command writes. -/
  | substitution (isQuoted : Bool) (source : List Char)
  /-- The value of an expression. -/
  | arithmetic (isQuoted : Bool) (source : List Char)
  deriving DecidableEq, Repr

abbrev ShellWord := List Part

/-- Where a stream of a command comes from or goes to. -/
inductive Redirection where
  | input (w : ShellWord)
  | output (stream : Nat) (appends : Bool) (w : ShellWord)
  /-- One stream goes where another goes. -/
  | duplicate (stream : Nat) (w : ShellWord)
  deriving DecidableEq, Repr

inductive Statement where
  | nothing
  | simple (line : Nat) (assignments : List (String × ShellWord)) (words : List ShellWord)
      (redirections : List Redirection)
  | sequence (a b : Statement)
  | both (a b : Statement)
  | either (a b : Statement)
  | negated (a : Statement)
  | pipe (a b : Statement)
  | background (a : Statement)
  | subshell (a : Statement)
  | redirected (a : Statement) (redirections : List Redirection)
  | branch (condition yes no : Statement)
  | loop (isUntil : Bool) (condition body : Statement)
  | each (name : String) (words : List ShellWord) (body : Statement)
  /-- Runs what belongs to the first pattern that the subject matches. -/
  | choice (subject : ShellWord) (arms : List (List ShellWord × Statement))
  | definition (name : String) (body : Statement)
  deriving Repr

inductive Token where
  | word (parts : ShellWord) (line : Nat)
  | operator (text : List Char)
  /-- A redirection of a stream. -/
  | redirect (stream : Nat) (text : List Char)
  deriving DecidableEq, Repr

/-- Whether a character separates words. -/
def isGap (c : Char) : Bool := c = ' ' || c = '\t'

def isNameStart (c : Char) : Bool := c.isAlpha || c = '_'

def isNameChar (c : Char) : Bool := c.isAlphanum || c = '_'

def isName (cs : List Char) : Bool :=
  match cs with
  | c :: rest => isNameStart c && rest.all isNameChar
  | [] => false

end ScriptSuite.Shell
