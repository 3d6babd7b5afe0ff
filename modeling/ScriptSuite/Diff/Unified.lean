import ScriptSuite.Diff.Compact

/-!
Unified differences.

Lines end at a line feed, a carriage return or both. Changes are shown with up to three
kept lines around them; changes that are further apart stand in hunks of their own.
-/

namespace ScriptSuite.Diff

/-- The lines of a text with their endings; a carriage return ends a line too. -/
def linesFrom (taken : List Char) : List Char → List String
  | [] => if taken.isEmpty then [] else [String.ofList taken.reverse]
  | '\r' :: '\n' :: cs => String.ofList (('\n' :: '\r' :: taken).reverse) :: linesFrom [] cs
  | c :: cs =>
    if c = '\r' || c = '\n' then String.ofList ((c :: taken).reverse) :: linesFrom [] cs
    else linesFrom (c :: taken) cs

def lines (text : String) : Array String :=
  (linesFrom [] text.toList).toArray

/-- The number of kept lines that are shown before and after a change. -/
def context : Nat := 3

/-- Cuts the kept part that a script starts with to its last lines. -/
def cutFirst : List Edit → List Edit
  | [] => []
  | e :: es => if e.kind = .keep then e.shrinkLeft (e.oldLength - context) :: es else e :: es

/-- Cuts the kept part that a script ends with to its first lines. -/
def cutLast : List Edit → List Edit
  | [] => []
  | [e] => if e.kind = .keep then [e.shrinkRight (e.oldLength - context)] else [e]
  | e :: es => e :: cutLast es

/-- The hunks of a script; `open` holds the edits of the current one, newest first. -/
def hunksFrom (opened : List Edit) : List Edit → List (List Edit)
  | [] =>
    match opened with
    | [] => []
    | [e] => if e.kind = .keep then [] else [[e]]
    | _ => [opened.reverse]
  | e :: es =>
    if e.kind = .keep && 2 * context < e.oldLength then
      (e.shrinkRight (e.oldLength - context) :: opened).reverse
        :: hunksFrom [e.shrinkLeft (e.oldLength - context)] es
    else hunksFrom (e :: opened) es

def hunks (es : List Edit) : List (List Edit) :=
  hunksFrom [] (cutLast (cutFirst es))

/-- A range of lines: the first and how many, the latter left out if it is one. The
first line of an empty range is the one before it. -/
def rangeText (first length : Nat) : String :=
  if length = 1 then toString (first + 1)
  else if length = 0 then toString first ++ ",0"
  else toString (first + 1) ++ "," ++ toString length

/-- A line with the sign of its change. A line without an ending is marked. -/
def markedLine (sign : String) (line : String) : String :=
  let ended := line.endsWith "\n" || line.endsWith "\r"
  sign ++ line ++ if ended then "" else "\n\\ No newline at end of file\n"

/-- The lines of a part, with the sign of their change. -/
def markedLines (sign : String) (all : Array String) (first length : Nat) : String :=
  String.join ((all.extract first (first + length)).toList.map (markedLine sign))

/-- An edit as lines: what it leaves out before what it puts in. -/
def Edit.show (old new : Array String) (e : Edit) : String :=
  match e.kind with
  | .keep => markedLines " " old e.old e.oldLength
  | .delete => markedLines "-" old e.old e.oldLength
  | .insert => markedLines "+" new e.new e.newLength
  | .replace =>
    markedLines "-" old e.old e.oldLength ++ markedLines "+" new e.new e.newLength

def showHunk (old new : Array String) (hunk : List Edit) : String :=
  match hunk.head?, hunk.getLast? with
  | some first, some last =>
    "@@ -" ++ rangeText first.old (last.oldEnd - first.old) ++ " +"
      ++ rangeText first.new (last.newEnd - first.new) ++ " @@\n"
      ++ String.join (hunk.map (Edit.show old new))
  | _, _ => ""

/-- The unified difference from one text to another; nothing if they do not differ. -/
def unified (oldName oldText newName newText : String) : String :=
  let old := lines oldText
  let new := lines newText
  match hunks (compactEdits old new) with
  | [] => ""
  | parts =>
    "--- " ++ oldName ++ "\n+++ " ++ newName ++ "\n"
      ++ String.join (parts.map (showHunk old new))

end ScriptSuite.Diff
