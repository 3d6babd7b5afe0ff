import ScriptSuite.Text.Ranges
import ScriptSuite.Yaml.Cursor

/-!
Scalars of YAML texts: plain, in quotes, and in blocks.

A plain or quoted scalar may go over several lines; a single end of a line is then a blank,
and of several the first is dropped. A block keeps its lines, or folds them.
-/

namespace ScriptSuite.Yaml

/-! ### Gaps between words -/

/-- What stands between two words of a scalar: blanks, or the ends of lines. -/
structure Gap where
  blanks : List Char
  /-- The first end of a line, unless it was escaped. -/
  first : List Char
  later : List Char
  isBroken : Bool

namespace Gap

def none : Gap := ⟨[], [], [], false⟩

/-- What a gap stands for. -/
def text (g : Gap) : List Char :=
  if !g.isBroken then g.blanks
  else if g.first = ['\n'] then (if g.later.isEmpty then [' '] else g.later)
  else g.first ++ g.later

/-- Adds the end of a line. -/
def addBreak (g : Gap) (sign : Char) : Gap :=
  if g.isBroken then { g with later := g.later ++ [sign] }
  else ⟨[], [sign], [], true⟩

/-- Reads on in a gap. In lines after the first, a tab in front of column `tabsFrom` is
refused. -/
def readFrom (tabsFrom : Nat) : Nat → Gap → Cursor → Except Flaw (Gap × Cursor)
  | 0, g, c => .ok (g, c)
  | fuel + 1, g, c =>
    match c.peek with
    | some ' ' =>
      readFrom tabsFrom fuel (if g.isBroken then g else { g with blanks := g.blanks ++ [' '] })
        (c.skip 1)
    | some '\t' =>
      if g.isBroken && c.column < tabsFrom then .error .tabIndent
      else
        readFrom tabsFrom fuel (if g.isBroken then g else { g with blanks := g.blanks ++ ['\t'] })
          (c.skip 1)
    | _ =>
      match c.nextLine? with
      | some (sign, next) => readFrom tabsFrom fuel (g.addBreak sign) next
      | .none => .ok (g, c)

/-- Reads on in a gap to its end. -/
def read (tabsFrom : Nat) (g : Gap) (c : Cursor) : Except Flaw (Gap × Cursor) :=
  readFrom tabsFrom c.rest.length g c

end Gap

/-! ### Plain scalars -/

/-- The signs that end a plain scalar between brackets. -/
def isFlowSign (c : Char) : Bool :=
  c = ',' || c = '[' || c = ']' || c = '\x7b' || c = '\x7d'

/-- The characters of a word of a plain scalar, and the rest. -/
def plainWord (inFlow : Bool) : List Char → Except Flaw (List Char)
  | [] => .ok []
  | c :: cs =>
    if isGap c then .ok []
    else
      let next := cs.head?
      if inFlow && c = ':' && (next.any isFlowSign || next = some '?') then .error .colonInFlow
      else if c = ':' && isGapOrEnd next then .ok []
      else if inFlow && isFlowSign c then .ok []
      else (plainWord inFlow cs).map (c :: ·)

/-- Reads a plain scalar: its text, whether a line ended after it, and the place after it. -/
def plainFrom (inFlow : Bool) (indent : Nat) :
    Nat → List Char → Gap → Cursor → Except Flaw (List Char × Bool × Cursor)
  | 0, text, g, c => .ok (text, g.isBroken, c)
  | fuel + 1, text, g, c =>
    if c.isAnyMarker || c.peek = some '#' then .ok (text, g.isBroken, c)
    else do
      let word ← plainWord inFlow c.rest
      let c := c.skip word.length
      let (text, g) := if word.isEmpty then (text, g) else (text ++ g.text ++ word, Gap.none)
      if isGapOrEnd c.peek && c.peek.isSome then do
        let (g, c) ← g.read indent c
        if !inFlow && c.column < indent then return (text, g.isBroken, c)
        else plainFrom inFlow indent fuel text g c
      else return (text, g.isBroken, c)

/-- Reads a plain scalar whose lines stand at column `indent` or further right. -/
def readPlain (inFlow : Bool) (indent : Nat) (c : Cursor) :
    Except Flaw (List Char × Bool × Cursor) :=
  plainFrom inFlow indent (c.rest.length + 1) [] Gap.none c

/-! ### Quoted scalars -/

/-- The number that hexadecimal digits write. -/
def hexNumber? (cs : List Char) : Option Nat :=
  cs.foldl (fun n c => n.bind fun n => (Text.Ranges.hexDigit? c).map (n * 16 + ·)) (some 0)

/-- The character with a code in `size` hexadecimal digits. -/
def readCode (size : Nat) (c : Cursor) : Except Flaw (Char × Cursor) :=
  let digits := c.rest.take size
  if digits.length < size then .error .hexDigits
  else
    match hexNumber? digits with
    | none => .error .hexDigits
    | some code =>
      if h : code.isValidChar then .ok (Char.ofNatAux code h, c.skip size)
      else .error .escapedCode

/-- Reads what follows a backslash in a quoted scalar. -/
def readEscape (c : Cursor) : Except Flaw (Char × Cursor) :=
  let simple (code : Nat) : Except Flaw (Char × Cursor) := .ok (Char.ofNat code, c.skip 1)
  match c.peek with
  | some '0' => simple 0
  | some 'a' => simple 7
  | some 'b' => simple 8
  | some 't' => simple 9
  | some '\t' => simple 9
  | some 'n' => simple 10
  | some 'v' => simple 11
  | some 'f' => simple 12
  | some 'r' => simple 13
  | some 'e' => simple 27
  | some ' ' => simple 32
  | some '"' => simple 34
  | some '/' => simple 47
  | some '\\' => simple 92
  | some 'N' => simple 0x85
  | some '_' => simple 0xA0
  | some 'L' => simple 0x2028
  | some 'P' => simple 0x2029
  | some 'x' => readCode 2 (c.skip 1)
  | some 'u' => readCode 4 (c.skip 1)
  | some 'U' => readCode 8 (c.skip 1)
  | _ => .error .unknownEscape

/-- Reads on in a quoted scalar: its text and the place after the closing quote. -/
def quotedFrom (quote : Char) :
    Nat → List Char → Cursor → Except Flaw (List Char × Cursor)
  | 0, _, _ => .error .unclosedQuote
  | fuel + 1, text, c =>
    if c.isAnyMarker then .error .markerInQuote
    else
      match c.peek with
      | none => .error .unclosedQuote
      | some e =>
        if e = '\'' && quote = '\'' && c.ahead 1 = some '\'' then
          quotedFrom quote fuel (text ++ ['\'']) (c.skip 2)
        else if e = quote then .ok (text, c.skip 1)
        else if e = '\\' && quote = '"' then
          match (c.skip 1).nextLine? with
          | some (_, next) => do
            let (g, c) ← Gap.read 0 ⟨[], [], [], true⟩ next
            quotedFrom quote fuel (text ++ g.text) c
          | none => do
            let (e, c) ← readEscape (c.skip 1)
            quotedFrom quote fuel (text ++ [e]) c
        else if isGap e then do
          let (g, c) ← Gap.none.read 0 c
          quotedFrom quote fuel (text ++ g.text) c
        else quotedFrom quote fuel (text ++ [e]) (c.skip 1)

/-- Reads a quoted scalar, from its opening quote on. -/
def readQuoted (quote : Char) (c : Cursor) : Except Flaw (List Char × Cursor) :=
  quotedFrom quote (c.rest.length + 1) [] (c.skip 1)

/-! ### Blocks -/

/-- What happens to the ends of lines at the end of a block. -/
inductive Chomping where
  | strip
  | clip
  | keep
  deriving DecidableEq

/-- Reads the signs after the one that begins a block: how its end is chomped, and how far
it is indented, if they say so. -/
def readHeader (c : Cursor) : Except Flaw (Chomping × Option Nat × Cursor) :=
  let chomping? (c : Cursor) : Option Chomping :=
    match c.peek with
    | some '+' => some .keep
    | some '-' => some .strip
    | _ => none
  let digit? (c : Cursor) : Option Nat :=
    (c.peek.filter Char.isDigit).map fun d => d.toNat - '0'.toNat
  let (chomping, indent, c) :=
    match chomping? c, digit? c with
    | some chomping, _ =>
      let c := c.skip 1
      match digit? c with
      | some d => (chomping, some d, c.skip 1)
      | none => (chomping, none, c)
    | none, some d =>
      let c := c.skip 1
      match chomping? c with
      | some chomping => (chomping, some d, c.skip 1)
      | none => (.clip, some d, c)
    | none, none => (.clip, none, c)
  if indent = some 0 then .error .blockHeader
  else
    let (_, c) := c.span isBlank
    let c := if c.peek = some '#' then c.line?.2 else c
    if isBreakOrEnd c.peek then
      .ok (chomping, indent, match c.nextLine? with | some (_, next) => next | none => c)
    else .error .blockHeader

/-- Reads empty lines in front of a line of a block: the ends of these lines, the furthest
column, and the place where the line begins. Spaces count up to the indent, if it is known. -/
def readEmptyLines (indent : Option Nat) :
    Nat → List Char → Nat → Cursor → Except Flaw (List Char × Nat × Cursor)
  | 0, ends, far, c => .ok (ends, far, c)
  | fuel + 1, ends, far, c =>
    let within (c : Cursor) : Bool :=
      match indent with
      | none => true
      | some n => c.column < n
    match c.peek with
    | some ' ' =>
      if within c then readEmptyLines indent fuel ends far (c.skip 1)
      else .ok (ends, max far c.column, c)
    | some '\t' =>
      if within c then .error .tabIndent else .ok (ends, max far c.column, c)
    | _ =>
      match c.nextLine? with
      | some (sign, next) =>
        readEmptyLines indent fuel (ends ++ [sign]) (max far c.column) next
      | none => .ok (ends, max far c.column, c)

/-- A block as far as it has been read: its text, the end of its last line, the ends of the
empty lines after it, and whether it began with a blank. -/
structure Block where
  text : List Char
  lastEnd : List Char
  emptyEnds : List Char
  beganBlank : Bool

/-- What joins the lines read so far to one that begins with a blank or not. -/
def Block.join (isLiteral isBlankNow : Bool) (b : Block) : List Char :=
  if !isLiteral && b.lastEnd = ['\n'] && !b.beganBlank && !isBlankNow then
    (if b.emptyEnds.isEmpty then [' '] else []) ++ b.emptyEnds
  else b.lastEnd ++ b.emptyEnds

/-- Reads the lines of a block. -/
def readLines (isLiteral : Bool) (indent : Nat) :
    Nat → Block → Cursor → Except Flaw (Block × Cursor)
  | 0, b, c => .ok (b, c)
  | fuel + 1, b, c =>
    match c.peek with
    | none => .ok (b, c)
    | some e =>
      if c.column != indent then .ok (b, c)
      else do
        let (taken, after) := c.line?
        let (lastEnd, next) :=
          match after.nextLine? with
          | some (sign, next) => ([sign], next)
          | none => ([], after)
        let (ends, _, next) ← readEmptyLines (some indent) next.rest.length [] 0 next
        readLines isLiteral indent fuel
          ⟨b.text ++ b.join isLiteral (isBlank e) ++ taken, lastEnd, ends, isBlank e⟩ next

/-- Reads a block, from the sign that begins it on. `outer` is the column of what it belongs
to, if there is such a thing. -/
def readBlock (isLiteral : Bool) (outer : Option Nat) (c : Cursor) :
    Except Flaw (List Char × Cursor) := do
  let (chomping, given, c) ← readHeader (c.skip 1)
  let given := given.map (outer.getD 0 + ·)
  let (ends, far, c) ← readEmptyLines given c.rest.length [] 0 c
  let least := match outer with | some n => n + 1 | none => 1
  let indent := given.getD (max (max far least) 1)
  let (b, c) ← readLines isLiteral indent c.rest.length ⟨[], [], ends, false⟩ c
  let tail :=
    match chomping with
    | .strip => []
    | .clip => b.lastEnd
    | .keep => b.lastEnd ++ b.emptyEnds
  return (b.text ++ tail, c)

end ScriptSuite.Yaml
