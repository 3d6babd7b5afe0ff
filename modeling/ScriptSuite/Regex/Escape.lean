import ScriptSuite.Regex.Flags

/-!
Signs that begin with a backslash.
-/

namespace ScriptSuite.Regex

/-- What one sign of a pattern stands for. -/
inductive Sign where
  | literal (c : Char)
  | oneOf (set : Text.Ranges)
  | look (condition : Look)

namespace Sign

/-- The characters with a meaning of their own. -/
def special : List Char :=
  ['\\', '.', '+', '*', '?', '(', ')', '|', '[', ']', '\x7b', '\x7d', '^', '$', '#', '&', '-',
    '~']

/-- Whether a character stands for itself after a backslash: all of ASCII do but letters,
digits and angle brackets. -/
def standsForItself (c : Char) : Bool :=
  special.contains c || (c.toNat < 0x80 && !c.isAlphanum && c != '<' && c != '>')

/-- The character with a code, if there is one. -/
def character? (code : Nat) : Option Char :=
  if h : code.isValidChar then some (Char.ofNatAux code h) else none

/-- The character with the code that hexadecimal digits write. In a pattern of ASCII alone
two digits write a byte, and a byte beyond ASCII is part of a character. -/
def ofCode (f : Flags) (isByte : Bool) (code : Nat) : Except Flaw Sign :=
  match character? code with
  | none => .error .hexNoCharacter
  | some c =>
    if isByte && !f.everyLanguage && 0x80 ≤ code && code ≤ 0xFF then .error .invalidUtf8
    else .ok (.literal c)

/-- Reads a given number of hexadecimal digits after those that write `value`. -/
def readDigits (f : Flags) : Nat → Nat → List Char → Except Flaw (Nat × List Char)
  | 0, value, cs => .ok (value, cs)
  | _ + 1, _, [] => .error .escapeUnfinished
  | n + 1, value, c :: cs =>
    match Text.Ranges.hexDigit? c with
    | none => .error .hexInvalid
    | some d => readDigits f n (value * 16 + d) (f.skip cs)

/-- The number that hexadecimal digits write. -/
def hexNumber? (cs : List Char) : Option Nat :=
  cs.foldl (fun n c => n.bind fun n => (Text.Ranges.hexDigit? c).map (n * 16 + ·)) (some 0)

/-- Reads the code of a character, whose form has `size` digits if it has no braces. -/
def readCode (f : Flags) (size : Nat) (cs : List Char) : Except Flaw (Sign × List Char) :=
  match f.skip cs with
  | [] => .error .escapeUnfinished
  | '\x7b' :: rest =>
    match f.takeUntil '\x7d' rest with
    | none => .error .escapeUnfinished
    | some ([], _) => .error .hexEmpty
    | some (digits, rest) => do
      match hexNumber? digits with
      | none => throw .hexInvalid
      | some code => return (← ofCode f false code, rest)
  | cs => do
    let (code, rest) ← readDigits f size 0 cs
    return (← ofCode f (size = 2) code, rest)

def readProperty (f : Flags) (negated : Bool) (cs : List Char) : Except Flaw (Sign × List Char) :=
  match f.skip cs with
  | [] => .error .escapeUnfinished
  | '\x7b' :: rest =>
    match f.takeUntil '\x7d' rest with
    | none => .error .escapeUnfinished
    | some (name, rest) => do return (.oneOf (← f.propertyClass negated name), rest)
  | '\\' :: _ => .error .propertyInvalid
  | c :: rest => do return (.oneOf (← f.propertyClass negated [c]), rest)

/-- The kinds of edges of words that go by a name in braces. -/
def namedEdge? (f : Flags) (name : String) : Option Look :=
  match name with
  | "start" => some (.wordStart f.everyLanguage)
  | "end" => some (.wordEnd f.everyLanguage)
  | "start-half" => some (.noWordBefore f.everyLanguage)
  | "end-half" => some (.noWordAfter f.everyLanguage)
  | _ => none

/-- Whether a character may stand in the name of a kind of edge. -/
def isEdgeLetter (c : Char) : Bool := c.isAlpha || c = '-'

/-- Reads what follows `\b`. A brace begins the name of a kind of edge if a letter or hyphen
follows it, else the count of a repetition. -/
def readEdge (f : Flags) (cs : List Char) : Except Flaw (Sign × List Char) :=
  let plain : Sign := .look (.wordEdge f.everyLanguage)
  match cs with
  | '\x7b' :: rest =>
    match f.skip rest with
    | [] => .error .boundaryUnclosed
    | c :: _ =>
      if !isEdgeLetter c then .ok (plain, cs)
      else
        match f.takeUntil '\x7d' rest with
        | none => .error .boundaryUnclosed
        | some (name, rest) =>
          if name.all isEdgeLetter then
            match namedEdge? f (String.ofList name) with
            | some condition => .ok (.look condition, rest)
            | none => .error .boundaryUnknown
          else .error .boundaryUnclosed
  | _ => .ok (plain, cs)

/-- Reads what follows a backslash. -/
def readEscape (f : Flags) : List Char → Except Flaw (Sign × List Char)
  | [] => .error .escapeUnfinished
  | c :: cs =>
    if c.isDigit then .error .backreference
    else if standsForItself c then .ok (.literal c, cs)
    else
      match c with
      | 'x' => readCode f 2 cs
      | 'u' => readCode f 4 cs
      | 'U' => readCode f 8 cs
      | 'p' => readProperty f false cs
      | 'P' => readProperty f true cs
      | 'a' => .ok (.literal '\x07', cs)
      | 'f' => .ok (.literal '\x0c', cs)
      | 't' => .ok (.literal '\t', cs)
      | 'n' => .ok (.literal '\n', cs)
      | 'r' => .ok (.literal '\x0d', cs)
      | 'v' => .ok (.literal '\x0b', cs)
      | 'A' => .ok (.look .textStart, cs)
      | 'z' => .ok (.look .textEnd, cs)
      | 'b' => readEdge f cs
      | 'B' => .ok (.look (.noWordEdge f.everyLanguage), cs)
      | '<' => .ok (.look (.wordStart f.everyLanguage), cs)
      | '>' => .ok (.look (.wordEnd f.everyLanguage), cs)
      | _ =>
        match f.letterClass? c with
        | some set => do return (.oneOf (← set), cs)
        | none => .error .escapeUnknown

end Sign
end ScriptSuite.Regex
