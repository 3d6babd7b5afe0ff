/-!
Lines of a text.

A text is cut after each line feed, so that gluing the lines together gives the
text back; `flatten_splitLines` states it. A raw line is further cut into its text
and its ending.
-/

namespace ScriptSuite.Text

/-- How a raw line ends: the last line of a text may lack an ending. -/
inductive Ending where
  | bare
  | lineFeed
  | returnFeed
  deriving DecidableEq, Repr

def Ending.chars : Ending → List Char
  | .bare => []
  | .lineFeed => ['\n']
  | .returnFeed => ['\r', '\n']

/-- The raw lines of a text, each with its ending. Put together they are the text, and only the last
of them may lack an ending. -/
def splitLines : List Char → List (List Char)
  | [] => []
  | c :: cs =>
    if c = '\n' then [c] :: splitLines cs
    else
      match splitLines cs with
      | [] => [[c]]
      | line :: lines => (c :: line) :: lines

/-- The text of a raw line and its ending. -/
def splitEnding : List Char → List Char × Ending
  | [] => ([], .bare)
  | ['\n'] => ([], .lineFeed)
  | ['\r', '\n'] => ([], .returnFeed)
  | c :: cs =>
    let (text, ending) := splitEnding cs
    (c :: text, ending)

/-- The texts of the lines, without their endings. -/
def lineTexts (cs : List Char) : List (List Char) :=
  (splitLines cs).map fun raw => (splitEnding raw).1

/-- Whether the text ends with a line feed. -/
def endsWithFeed (cs : List Char) : Bool :=
  cs.getLast? == some '\n'

/-- Adds a line feed to a text that is not empty and does not end with one. Doing so twice is doing
so once. -/
def normalize (cs : List Char) : List Char :=
  if cs.isEmpty || endsWithFeed cs then cs else cs ++ ['\n']

theorem flatten_splitLines (cs : List Char) : (splitLines cs).flatten = cs := by
  induction cs with
  | nil => rfl
  | cons c cs ih =>
    unfold splitLines
    split
    · simp [ih]
    · cases h : splitLines cs with
      | nil => rw [h] at ih; simp at ih; simp [← ih]
      | cons line lines => rw [h] at ih; simp at ih; simp [ih]

theorem splitEnding_append (raw : List Char) :
    (splitEnding raw).1 ++ (splitEnding raw).2.chars = raw := by
  fun_induction splitEnding raw with
  | case1 => rfl
  | case2 => rfl
  | case3 => rfl
  | case4 c cs _ _ text ending h ih => simpa [h] using ih

end ScriptSuite.Text
