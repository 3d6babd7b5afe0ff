import ScriptSuite.Script.Basic
import ScriptSuite.Script.Separator

/-!
Reading scripts.

The lines before the first separator are blank, comments or instructions; all later
lines are separators or data. Reading stops at the first line with a fault.
-/

namespace ScriptSuite

namespace Condition

/-- Reads what stands between the brackets. -/
def ofInner (inner : List Char) : Except Fault Condition :=
  let inner := Text.trim inner
  let (negated, tag) :=
    match inner with
    | '!' :: tag => (true, Text.trim tag)
    | _ => (false, inner)
  if tag.isEmpty || tag.any Text.isBlank then
    .error (.malformedCondition (String.ofList ('[' :: inner ++ [']'])))
  else .ok ⟨negated, String.ofList tag⟩

/-- Reads the conditions at the front of a line. `inside` holds, newest first, what follows
an open bracket. Gives the conditions and the rest of the line. -/
def takeFrom : (inside : Option (List Char)) → List Char →
    Except Fault (List Condition × List Char)
  | none, [] => .ok ([], [])
  | some taken, [] =>
    .error (.malformedCondition (String.ofList ('[' :: taken.reverse)))
  | none, c :: cs =>
    if c = '[' then takeFrom (some []) cs
    else if Text.isBlank c then takeFrom none cs
    else .ok ([], c :: cs)
  | some taken, c :: cs =>
    if c = ']' then
      match ofInner taken.reverse with
      | .error fault => .error fault
      | .ok condition =>
        (takeFrom none cs).map fun (more, rest) => (condition :: more, rest)
    else takeFrom (some (c :: taken)) cs

end Condition

namespace Expectation

/-- Reads the mark at the front of a line. Blanks may follow it; a second mark is part of the name
of the command. -/
def takeMark (cs : List Char) : Expectation × List Char :=
  match cs with
  | '!' :: rest => (.failure, Text.trimStart rest)
  | '?' :: rest => (.either, Text.trimStart rest)
  | _ => (.success, cs)

end Expectation

namespace Instruction

/-- Reads an instruction from the text of its line: conditions, then a mark, then words. A first
word without characters, as a pair of quotes writes it, is no command. -/
def ofLine (line : Nat) (text : List Char) : Except Fault Instruction :=
  match Condition.takeFrom none (Text.trim text) with
  | .error fault => .error fault
  | .ok (conditions, rest) =>
    let (expectation, rest) := Expectation.takeMark rest
    match Word.splitWords rest with
    | .error quote => .error (.unterminatedQuote quote)
    | .ok [] => .error .missingCommand
    | .ok (first :: arguments) =>
      if first.chars.isEmpty then .error .missingCommand
      else .ok ⟨line, String.ofList text, conditions, expectation, first.raw, arguments⟩

end Instruction

namespace Script

/-- Reads the lines of an archive, from line `number` on. `names` are the files before.
Gives the data up to the next separator, and the files after it. -/
def readArchive (number : Nat) (names : List (List Char)) :
    List (List Char) → Except ParseError (List Char × List ArchiveFile)
  | [] => .ok ([], [])
  | raw :: rest =>
    let (text, ending) := Text.splitEnding raw
    match Separator.ofLine text with
    | .malformed line => .error ⟨number, .malformedSeparator (String.ofList line)⟩
    | .named name =>
      if names.contains name then .error ⟨number, .duplicateFile (String.ofList name)⟩
      else
        (readArchive (number + 1) (name :: names) rest).map fun (data, files) =>
          ([], ⟨String.ofList name, Text.encode data, ending⟩ :: files)
    | .absent =>
      (readArchive (number + 1) names rest).map fun (data, files) => (raw ++ data, files)

/-- A line before the archive: nothing, or an instruction. What starts like a separator but is none
counts as a slip, and is not taken for a command. -/
def readPreambleLine (number : Nat) (text : List Char) : Except Fault (Option Instruction) :=
  match Text.trim text with
  | [] => .ok none
  | '#' :: _ => .ok none
  | '-' :: '-' :: _ => .error (.malformedSeparator (String.ofList text))
  | _ => (Instruction.ofLine number text).map some

/-- Reads the lines of a script, from line `number` on, none of which is in the archive
yet. Gives the instructions, the files, and the text before the archive. -/
def readLines (number : Nat) :
    List (List Char) → Except ParseError (List Instruction × List ArchiveFile × List Char)
  | [] => .ok ([], [], [])
  | raw :: rest =>
    let (text, _) := Text.splitEnding raw
    match Separator.ofLine text with
    | .malformed line => .error ⟨number, .malformedSeparator (String.ofList line)⟩
    | .named _ =>
      (readArchive number [] (raw :: rest)).map fun (_, files) => ([], files, [])
    | .absent =>
      match readPreambleLine number text with
      | .error fault => .error ⟨number, fault⟩
      | .ok instruction =>
        (readLines (number + 1) rest).map fun (instructions, files, preamble) =>
          (instruction.toList ++ instructions, files, raw ++ preamble)

/-- Reads a script. The lines are read once and in order, so that what is said of a source depends
on its lines up to the first fault alone. -/
def parse (source : String) : Except ParseError Script :=
  (readLines 1 (Text.splitLines source.toList)).map fun (instructions, files, preamble) =>
    ⟨instructions, files, String.ofList preamble⟩

end Script
end ScriptSuite
