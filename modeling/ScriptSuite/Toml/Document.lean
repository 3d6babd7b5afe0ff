import ScriptSuite.Toml.Table
import ScriptSuite.Toml.Text

/-!
TOML documents, as far as they hold whole numbers, truth values, strings, points in time and
tables.
-/

namespace ScriptSuite.Toml

/-- Whether a character may stand in a key without quotes. -/
def isKeyLetter (c : Char) : Bool := c.isAlphanum || c = '_' || c = '-'

/-- Reads a part of a key. A part in quotes stands on one line. -/
def readKeyPart : List Char → Except Flaw (String × List Char)
  | '"' :: rest => do
    let (text, rest) ← shortFrom '"' (rest.length + 1) [] rest
    return (String.ofList text, rest)
  | '\'' :: rest => do
    let (text, rest) ← shortFrom '\'' (rest.length + 1) [] rest
    return (String.ofList text, rest)
  | cs =>
    match cs.takeWhile isKeyLetter with
    | [] => .error .missingKey
    | name => .ok (String.ofList name, cs.dropWhile isKeyLetter)

/-- Reads a key with dots, and the blanks around its parts. -/
def readKey : Nat → List Char → Except Flaw (List String × List Char)
  | 0, _ => .error .missingKey
  | fuel + 1, cs => do
    let (part, rest) ← readKeyPart (skipBlanks cs)
    match skipBlanks rest with
    | '.' :: rest =>
      let (parts, rest) ← readKey fuel rest
      return (part :: parts, rest)
    | rest => return ([part], rest)

/-- Whether a character belongs to a word that is a value. -/
def isWordLetter (c : Char) : Bool := isKeyLetter c || c = '+' || c = '.' || c = ':'

/-- Reads a value that is a word. -/
def readWord (cs : List Char) : Except Flaw (Value × List Char) :=
  let word := cs.takeWhile isWordLetter
  let rest := cs.dropWhile isWordLetter
  if word.isEmpty then .error .missingValue
  else if word = "true".toList then .ok (.boolean true, rest)
  else if word = "false".toList then .ok (.boolean false, rest)
  else
    match integer? word with
    | some n => .ok (.integer n, rest)
    | none => .error .invalidNumber

mutual

def readValue : Nat → List Char → Except Flaw (Value × List Char)
  | 0, _ => .error .missingValue
  | fuel + 1, cs =>
    match cs with
    | '"' :: rest => do
      let (s, rest) ← readString '"' rest
      return (.string s, rest)
    | '\'' :: rest => do
      let (s, rest) ← readString '\'' rest
      return (.string s, rest)
    | '\x7b' :: rest => readBraces true fuel [] (skipBlanks rest)
    | '[' :: _ => .error .otherValue
    | cs =>
      match readMoment? cs with
      | some (m, rest) => .ok (.moment m, rest)
      | none => readWord cs

/-- Reads the entries of a table between braces, which stand on one line. -/
def readBraces (isFirst : Bool) : Nat → Entries → List Char → Except Flaw (Value × List Char)
  | 0, _, _ => .error .missingComma
  | fuel + 1, entries, cs =>
    match cs with
    | '\x7d' :: rest =>
      if isFirst then .ok (.table .braces entries, rest) else .error .missingKey
    | cs => do
      let (key, rest) ← readKey (cs.length + 1) cs
      match rest with
      | '=' :: rest =>
        let (v, rest) ← readValue fuel (skipBlanks rest)
        let entries ← entries.put v key
        match skipBlanks rest with
        | ',' :: rest => readBraces false fuel entries (skipBlanks rest)
        | '\x7d' :: rest => return (.table .braces entries, rest)
        | _ => throw .missingComma
      | _ => throw .missingEquals

end

/-- Reads the header of a table after its bracket, to the end of the line. -/
def readHeader (cs : List Char) : Except Flaw (List String × List Char) := do
  let (path, rest) ← readKey (cs.length + 1) cs
  match rest with
  | ']' :: rest => return (path, ← finishLine rest)
  | _ => throw .missingBracket

/-- Reads a document line by line; `path` names the table that is open. Every line takes a
character. -/
def readLines : Nat → List String → Entries → List Char → Except Flaw Entries
  | 0, _, entries, _ => .ok entries
  | fuel + 1, path, entries, cs =>
    match skipBlanks cs with
    | [] => .ok entries
    | '[' :: '[' :: _ => .error .otherValue
    | '[' :: rest => do
      let (path, rest) ← readHeader rest
      readLines fuel path (← entries.openTable path) rest
    | c :: rest =>
      if c = '#' || c = '\n' || c = '\r' then do
        readLines fuel path entries (← finishLine (c :: rest))
      else do
        let (key, rest) ← readKey (rest.length + 2) (c :: rest)
        match rest with
        | '=' :: rest =>
          let (v, rest) ← readValue (rest.length + 1) (skipBlanks rest)
          let entries ← entries.putUnder key v path
          readLines fuel path entries (← finishLine rest)
        | _ => throw .missingEquals

/-- The entries of a document. A mark of the byte order in front does not count. -/
def Entries.ofText (text : String) : Except Flaw Entries :=
  let cs := text.toList
  let cs := if cs.head? = some '\uFEFF' then cs.drop 1 else cs
  readLines (cs.length + 1) [] [] cs

end ScriptSuite.Toml
