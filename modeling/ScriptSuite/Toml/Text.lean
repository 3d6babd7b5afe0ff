import ScriptSuite.Text.Blank
import ScriptSuite.Text.Number
import ScriptSuite.Text.Ranges
import ScriptSuite.Toml.Flaw

/-!
Strings, numbers and blanks of TOML texts.

A string is basic, with escapes, or literal; both come on one line or, with three quotes, on
several. The end of a line in a string is a line feed, however it is written.
-/

namespace ScriptSuite.Toml

/-- Whether a character is a space or a tab. -/
def isBlank (c : Char) : Bool := c = ' ' || c = '\t'

def skipBlanks (cs : List Char) : List Char := cs.dropWhile isBlank

/-- What follows the end of a line, if one stands in front. -/
def dropLineEnd? : List Char → Option (List Char)
  | '\n' :: rest => some rest
  | '\r' :: '\n' :: rest => some rest
  | _ => none

/-- Whether a character may stand in a comment or a string: all but the control characters,
of which only the tab may. -/
def isTextual (c : Char) : Bool :=
  c = '\t' || (0x20 ≤ c.toNat && c.toNat != 0x7F)

/-- Drops a comment if one stands in front. -/
def skipComment (cs : List Char) : List Char :=
  match cs with
  | '#' :: rest => rest.dropWhile isTextual
  | _ => cs

/-- Goes on to the next line; only blanks and a comment may stand in front of it. -/
def finishLine (cs : List Char) : Except Flaw (List Char) :=
  match skipComment (skipBlanks cs) with
  | [] => .ok []
  | rest =>
    match dropLineEnd? rest with
    | some rest => .ok rest
    | none => .error .strayCharacter

/-! ### Strings -/

/-- The character with a code in `size` hexadecimal digits. -/
def readCode (size : Nat) (cs : List Char) : Except Flaw (Char × List Char) :=
  let digits := cs.take size
  let number? :=
    digits.foldl (fun n c => n.bind fun n => (Text.Ranges.hexDigit? c).map (n * 16 + ·)) (some 0)
  match number? with
  | none => .error .unknownEscape
  | some code =>
    if digits.length < size then .error .unknownEscape
    else if h : code.isValidChar then .ok (Char.ofNatAux code h, cs.drop size)
    else .error .unknownEscape

/-- Reads what follows a backslash. -/
def readEscape : List Char → Except Flaw (Char × List Char)
  | 'b' :: rest => .ok ('\x08', rest)
  | 't' :: rest => .ok ('\t', rest)
  | 'n' :: rest => .ok ('\n', rest)
  | 'f' :: rest => .ok ('\x0c', rest)
  | 'r' :: rest => .ok ('\r', rest)
  | '"' :: rest => .ok ('"', rest)
  | '\\' :: rest => .ok ('\\', rest)
  | 'u' :: rest => readCode 4 rest
  | 'U' :: rest => readCode 8 rest
  | _ => .error .unknownEscape

/-- Drops blanks and ends of lines. -/
def skipLines : Nat → List Char → List Char
  | 0, cs => cs
  | fuel + 1, cs =>
    match cs with
    | ' ' :: rest => skipLines fuel rest
    | '\t' :: rest => skipLines fuel rest
    | _ =>
      match dropLineEnd? cs with
      | some rest => skipLines fuel rest
      | none => cs

/-- Reads on in a string on one line, to its closing quote. -/
def shortFrom (quote : Char) : Nat → List Char → List Char → Except Flaw (List Char × List Char)
  | 0, _, _ => .error .unclosedString
  | fuel + 1, text, cs =>
    match cs with
    | [] => .error .unclosedString
    | c :: rest =>
      if c = quote then .ok (text, rest)
      else if c = '\\' && quote = '"' then do
        let (e, rest) ← readEscape rest
        shortFrom quote fuel (text ++ [e]) rest
      else if isTextual c then shortFrom quote fuel (text ++ [c]) rest
      else .error .unclosedString

/-- Reads on in a string on several lines. Up to two quotes may stand in front of the three
that close it. -/
def longFrom (quote : Char) : Nat → List Char → List Char → Except Flaw (List Char × List Char)
  | 0, _, _ => .error .unclosedString
  | fuel + 1, text, cs =>
    match cs with
    | [] => .error .unclosedString
    | c :: rest =>
      if c = quote then
        let quotes := cs.takeWhile (· = quote)
        if quotes.length < 3 then longFrom quote fuel (text ++ [c]) rest
        else if quotes.length ≤ 5 then
          .ok (text ++ quotes.drop 3, cs.drop quotes.length)
        else .error .unclosedString
      else if c = '\\' && quote = '"' then
        match dropLineEnd? (skipBlanks rest) with
        | some after => longFrom quote fuel text (skipLines after.length after)
        | none => do
          let (e, rest) ← readEscape rest
          longFrom quote fuel (text ++ [e]) rest
      else
        match dropLineEnd? cs with
        | some rest => longFrom quote fuel (text ++ ['\n']) rest
        | none =>
          if isTextual c then longFrom quote fuel (text ++ [c]) rest else .error .unclosedString

/-- Reads a string after its first quote. The end of a line after three quotes does not
count. -/
def readString (quote : Char) (cs : List Char) : Except Flaw (String × List Char) := do
  let (text, rest) ←
    match Text.dropLead? [quote, quote] cs with
    | some rest =>
      let rest := (dropLineEnd? rest).getD rest
      longFrom quote (rest.length + 1) [] rest
    | none => shortFrom quote (cs.length + 1) [] cs
  return (String.ofList text, rest)

/-! ### Numbers -/

def digit? (base : Nat) (c : Char) : Option Nat :=
  (Text.Ranges.hexDigit? c).filter (· < base)

/-- The number that digits write. A single underscore may stand between two digits. -/
def number? (base : Nat) : List Char → Option Nat
  | [] => none
  | cs =>
    let step (state : Option (Nat × Bool)) (c : Char) : Option (Nat × Bool) :=
      state.bind fun (n, afterDigit) =>
        if c = '_' then (if afterDigit then some (n, false) else none)
        else (digit? base c).map fun d => (n * base + d, true)
    (cs.foldl step (some (0, false))).bind fun (n, afterDigit) =>
      if afterDigit then some n else none

/-- The whole number that a word writes: with a sign and without zeros in front, or in one
of three other bases. It has to fit in 64 bits. -/
def integer? (word : List Char) : Option Int :=
  let decimal (cs : List Char) : Option Nat :=
    match cs with
    | '0' :: _ :: _ => none
    | _ => number? 10 cs
  let value : Option Int :=
    match word with
    | '0' :: 'x' :: rest => (number? 16 rest).map Int.ofNat
    | '0' :: 'o' :: rest => (number? 8 rest).map Int.ofNat
    | '0' :: 'b' :: rest => (number? 2 rest).map Int.ofNat
    | '+' :: rest => (decimal rest).map Int.ofNat
    | '-' :: rest => (decimal rest).map fun n => -Int.ofNat n
    | _ => (decimal word).map Int.ofNat
  value.filter fun n => -(Text.signedLimit64 : Int) ≤ n && n < (Text.signedLimit64 : Int)

end ScriptSuite.Toml
