import ScriptSuite.Yaml.Scalar
import ScriptSuite.Yaml.Token

/-!
Tokens of a YAML text.

A key is known as one only at the colon after it. So the place of every token that may
begin a key is kept, and the tokens of the key are put there when the colon comes: it has
to come on the same line and within `keyLimit` characters.
-/

namespace ScriptSuite.Yaml

/-- How long a key without a question mark may be. -/
def keyLimit : Nat := 1024

/-- A place where a key may have begun. -/
structure PossibleKey where
  /-- Whether it has to be a key. -/
  isRequired : Bool
  /-- The number of tokens before it. -/
  token : Nat
  start : Cursor
  deriving Inhabited

/-- Whether a key can no longer end at a place. -/
def PossibleKey.isStale (k : PossibleKey) (c : Cursor) : Bool :=
  k.start.line < c.line || k.start.index + keyLimit < c.index

/-- How far a text has been split. -/
structure Lexing where
  cursor : Cursor
  tokens : Array Token
  /-- The column of the innermost block. -/
  indent : Option Nat
  /-- The columns of the blocks around it. -/
  outer : List (Option Nat)
  /-- Whether a key may begin here. -/
  keyAllowed : Bool
  /-- The key that may have begun in the innermost bracket, or outside of all. -/
  pending : Option PossibleKey
  /-- Those around the brackets that are open; there are as many as brackets. -/
  suspended : List (Option PossibleKey)
  deriving Inhabited

namespace Lexing

def start (c : Cursor) : Lexing := ⟨c, #[], none, [], true, none, []⟩

/-- Whether a bracket is open. -/
def inFlow (l : Lexing) : Bool := !l.suspended.isEmpty

def push (l : Lexing) (t : Token) : Lexing := { l with tokens := l.tokens.push t }

/-- Adds a token of `n` characters, and says whether a key may follow it. -/
def take (l : Lexing) (t : Token) (n : Nat) (allowsKey : Bool) : Lexing :=
  { l.push t with cursor := l.cursor.skip n, keyAllowed := allowsKey }

/-- Adds a token that ends at a place, and says whether a key may follow it. -/
def takeUpTo (l : Lexing) (t : Token) (after : Cursor) (allowsKey : Bool) : Lexing :=
  { l.push t with cursor := after, keyAllowed := allowsKey }

/-! ### Blocks -/

/-- Whether a block stands left of a column; no block is left of all. -/
def isLeftOf (indent : Option Nat) (column : Nat) : Bool :=
  match indent with
  | none => true
  | some n => n < column

/-- Ends the blocks that stand right of a column, or all blocks. -/
def endBlocksFrom (column : Option Nat) :
    Option Nat → List (Option Nat) → Array Token → Option Nat × List (Option Nat) × Array Token
  | some n, next :: outer, tokens =>
    if column.all (· < n) then endBlocksFrom column next outer (tokens.push .blockEnd)
    else (some n, next :: outer, tokens)
  | indent, outer, tokens => (indent, outer, tokens)

/-- Ends the blocks that stand right of a column, or all blocks; within brackets none. -/
def endBlocks (l : Lexing) (column : Option Nat) : Lexing :=
  if l.inFlow then l
  else
    let (indent, outer, tokens) := endBlocksFrom column l.indent l.outer l.tokens
    { l with indent := indent, outer := outer, tokens := tokens }

/-- Begins a block at a column, unless one stands there or further right; within brackets
none. Its token is put in front of those from number `place` on. -/
def beginBlock (l : Lexing) (column place : Nat) (t : Token) : Lexing :=
  if !l.inFlow && isLeftOf l.indent column then
    { l with
      indent := some column
      outer := l.indent :: l.outer
      tokens := l.tokens.insertIdxIfInBounds place t }
  else l

/-- Begins a block here. -/
def beginBlockHere (l : Lexing) (t : Token) : Lexing :=
  l.beginBlock l.cursor.column l.tokens.size t

/-! ### Keys -/

/-- Gives up the pending key. -/
def dropKey (l : Lexing) : Except Flaw Lexing :=
  match l.pending with
  | some k => if k.isRequired then .error .missingColon else .ok { l with pending := none }
  | none => .ok l

/-- Notes that a key may begin here. In a block that has begun at this column it has to. -/
def noteKey (l : Lexing) : Except Flaw Lexing :=
  if l.keyAllowed then do
    let l ← l.dropKey
    let isRequired := !l.inFlow && l.indent = some l.cursor.column
    return { l with pending := some ⟨isRequired, l.tokens.size, l.cursor⟩ }
  else .ok l

/-- A key, unless it can no longer end at a place. -/
def refresh (c : Cursor) : Option PossibleKey → Except Flaw (Option PossibleKey)
  | none => .ok none
  | some k =>
    if !k.isStale c then .ok (some k)
    else if k.isRequired then .error .missingColon
    else .ok none

/-- Gives up all keys that can no longer end here. -/
def dropStaleKeys (l : Lexing) : Except Flaw Lexing := do
  let pending ← refresh l.cursor l.pending
  let suspended ← l.suspended.mapM (refresh l.cursor)
  return { l with pending := pending, suspended := suspended }

/-! ### Between tokens -/

/-- Goes on to the next token. Tabs count where a key may begin outside of brackets. -/
def skipGapFrom : Nat → Lexing → Lexing
  | 0, l => l
  | fuel + 1, l =>
    match l.cursor.peek with
    | some ' ' => skipGapFrom fuel { l with cursor := l.cursor.skip 1 }
    | some '\t' =>
      if l.inFlow || !l.keyAllowed then skipGapFrom fuel { l with cursor := l.cursor.skip 1 }
      else l
    | some '#' => skipGapFrom fuel { l with cursor := l.cursor.line?.2 }
    | _ =>
      match l.cursor.nextLine? with
      | some (_, next) =>
        skipGapFrom fuel { l with cursor := next, keyAllowed := l.keyAllowed || !l.inFlow }
      | none => l

/-- Goes on to the next token. -/
def skipGap (l : Lexing) : Lexing := skipGapFrom (l.cursor.rest.length + 1) l

/-! ### Directives, anchors and tags -/

def readNumber (c : Cursor) : Except Flaw (Nat × Cursor) :=
  let (digits, rest) := c.span Char.isDigit
  if digits.isEmpty || digits.length > 9 then .error .directive
  else .ok (digits.foldl (fun n d => n * 10 + (d.toNat - '0'.toNat)) 0, rest)

/-- Goes on over the blanks and the comment at the end of a line. -/
def finishLine (c : Cursor) : Except Flaw Cursor :=
  let (_, c) := c.span isBlank
  let c := if c.peek = some '#' then c.line?.2 else c
  if isBreakOrEnd c.peek then
    .ok (match c.nextLine? with | some (_, next) => next | none => c)
  else .error .directive

/-- Whether a character may stand in a tag; between angle brackets a few more may. -/
def isTagLetter (inAngles : Bool) (c : Char) : Bool :=
  isNameLetter c || ";/?:@&=+$.%!~*'()".toList.contains c
    || (inAngles && (c = ',' || c = '[' || c = ']'))

/-- Reads the handle of a tag: an exclamation mark, a name, and another mark if it stands
there. -/
def readHandle (c : Cursor) : List Char × Cursor :=
  let (name, after) := (c.skip 1).span isNameLetter
  if after.peek = some '!' then ('!' :: name ++ ['!'], after.skip 1) else ('!' :: name, after)

/-- Reads a directive after its percent sign. -/
def readDirective (c : Cursor) : Except Flaw (Token × Cursor) := do
  let (name, c) := c.span isNameLetter
  let (_, c) := c.span isBlank
  if name = "YAML".toList then
    let (major, c) ← readNumber c
    if c.peek != some '.' then throw .directive
    let (minor, c) ← readNumber (c.skip 1)
    return (.version major minor, ← finishLine c)
  else if name = "TAG".toList then
    if c.peek != some '!' then throw .directive
    let (handle, c) := readHandle c
    if handle.getLast? != some '!' || !c.peek.any isBlank then throw .directive
    let (_, c) := c.span isBlank
    let (uri, c) := c.span (isTagLetter true)
    if uri.isEmpty || !isGapOrEnd c.peek then throw .directive
    return (.tagHandle (String.ofList handle), ← finishLine c)
  else throw .directive

/-- Reads the name of an anchor after its sign. -/
def readAnchor (c : Cursor) : Except Flaw (String × Cursor) :=
  let (name, c) := c.span isNameLetter
  let mayEnd := isGapOrEnd c.peek || c.peek.any ("?:,]%@\x60\x7d".toList.contains ·)
  if name.isEmpty || !mayEnd then .error .anchorName else .ok (String.ofList name, c)

/-- Reads a tag: its handle, which is empty for a tag that is written out, its suffix, and
the place after it. -/
def readTag (inFlow : Bool) (c : Cursor) : Except Flaw (String × String × Cursor) := do
  let (handle, suffix, c) ←
    if c.ahead 1 = some '<' then
      let (uri, c) := (c.skip 2).span (isTagLetter true)
      if uri.isEmpty || c.peek != some '>' then throw Flaw.tagName
      pure ([], uri, c.skip 1)
    else
      let (handle, after) := readHandle c
      let (uri, c) := after.span (isTagLetter false)
      if handle.length > 1 && handle.getLast? = some '!' then
        if uri.isEmpty then throw Flaw.tagName
        pure (handle, uri, c)
      else
        let suffix := handle.drop 1 ++ uri
        pure (if suffix.isEmpty then ([], ['!'], c) else (['!'], suffix, c))
  if (inFlow && c.peek = some ',') || isGapOrEnd c.peek then
    return (String.ofList handle, String.ofList suffix, c)
  else throw .tagName

/-! ### Single tokens -/

def openFlow (l : Lexing) (t : Token) : Except Flaw Lexing := do
  let l ← l.noteKey
  return { l with pending := none, suspended := l.pending :: l.suspended }.take t 1 true

def closeFlow (l : Lexing) (t : Token) : Except Flaw Lexing := do
  let l ← l.dropKey
  let l :=
    match l.suspended with
    | pending :: suspended => { l with pending := pending, suspended := suspended }
    | [] => l
  return l.take t 1 false

/-- Begins an entry of a block sequence. -/
def blockEntry (l : Lexing) : Except Flaw Lexing := do
  if !l.inFlow && !l.keyAllowed then throw .blockEntryHere
  let l ← (l.beginBlockHere .blockSequence).dropKey
  return l.take .blockEntry 1 true

/-- Begins a key after a question mark. -/
def key (l : Lexing) : Except Flaw Lexing := do
  if !l.inFlow && !l.keyAllowed then throw .keyHere
  let l ← (l.beginBlockHere .blockMapping).dropKey
  return l.take .key 1 !l.inFlow

/-- Begins a value: what stands in front of it was a key, or the key is missing. -/
def value (l : Lexing) : Except Flaw Lexing := do
  match l.pending with
  | some k =>
    let l := { l with tokens := l.tokens.insertIdxIfInBounds k.token .key, pending := none }
    return (l.beginBlock k.start.column k.token .blockMapping).take .value 1 false
  | none =>
    if !l.inFlow && !l.keyAllowed then throw .valueHere
    return (l.beginBlockHere .blockMapping).take .value 1 !l.inFlow

/-- Ends all blocks in front of a directive, of a sign between documents, or of the end. -/
def endDocument (l : Lexing) : Except Flaw Lexing :=
  (l.endBlocks none).dropKey

/-- Reads a scalar that is a block. -/
def blockScalar (l : Lexing) (isLiteral : Bool) : Except Flaw Lexing := do
  let l ← l.dropKey
  let (text, after) ← readBlock isLiteral l.indent l.cursor
  let style := if isLiteral then Style.literal else Style.folded
  return l.takeUpTo (.scalar (String.ofList text) style) after true

/-- The signs that begin no plain scalar. -/
def indicators : List Char :=
  "-?:,[]#&*!|>'\"%@\x60\x7b\x7d".toList

/-- Whether a plain scalar begins here, with the character `c`. -/
def beginsPlain (l : Lexing) (c : Char) : Bool :=
  let next := l.cursor.ahead 1
  !(isGap c || indicators.contains c)
    || (c = '-' && !next.any isBlank)
    || (!l.inFlow && (c = '?' || c = ':') && !isGapOrEnd next)

/-- Reads a plain scalar. -/
def plainScalar (l : Lexing) : Except Flaw Lexing := do
  let l ← l.noteKey
  let indent := match l.indent with | some n => n + 1 | none => 0
  let (text, isBroken, after) ← readPlain l.inFlow indent l.cursor
  return l.takeUpTo (.scalar (String.ofList text) .plain) after isBroken

/-- Reads the token that begins with `c`. -/
def readToken (l : Lexing) (c : Char) : Except Flaw Lexing := do
  let next := l.cursor.ahead 1
  if l.cursor.column = 0 && c = '%' then
    let l ← l.endDocument
    let (t, after) ← readDirective (l.cursor.skip 1)
    return l.takeUpTo t after false
  else if l.cursor.isMarker '-' then return (← l.endDocument).take .documentStart 3 false
  else if l.cursor.isMarker '.' then return (← l.endDocument).take .documentEnd 3 false
  else if c = '[' then l.openFlow .flowSequence
  else if c = '\x7b' then l.openFlow .flowMapping
  else if c = ']' then l.closeFlow .flowSequenceEnd
  else if c = '\x7d' then l.closeFlow .flowMappingEnd
  else if c = ',' then return (← l.dropKey).take .flowEntry 1 true
  else if c = '-' && isGapOrEnd next then l.blockEntry
  else if c = '?' && (l.inFlow || isGapOrEnd next) then l.key
  else if c = ':' && (l.inFlow || isGapOrEnd next) then l.value
  else if c = '*' then
    let l ← l.noteKey
    let (name, after) ← readAnchor (l.cursor.skip 1)
    return l.takeUpTo (.reference name) after false
  else if c = '&' then
    let l ← l.noteKey
    let (name, after) ← readAnchor (l.cursor.skip 1)
    return l.takeUpTo (.anchor name) after false
  else if c = '!' then
    let l ← l.noteKey
    let (handle, suffix, after) ← readTag l.inFlow l.cursor
    return l.takeUpTo (.tag handle suffix) after false
  else if c = '|' && !l.inFlow then l.blockScalar true
  else if c = '>' && !l.inFlow then l.blockScalar false
  else if c = '\'' || c = '"' then
    let l ← l.noteKey
    let (text, after) ← readQuoted c l.cursor
    return l.takeUpTo (.scalar (String.ofList text) .quoted) after false
  else if l.beginsPlain c then l.plainScalar
  else throw .strayCharacter

/-- Reads tokens to the end of the text. Every token takes a character. -/
def readFrom : Nat → Lexing → Except Flaw Lexing
  | 0, l => .ok l
  | fuel + 1, l => do
    let l ← l.skipGap.dropStaleKeys
    match l.cursor.peek with
    | none => l.endDocument
    | some c =>
      let l ← (l.endBlocks (some l.cursor.column)).readToken c
      readFrom fuel l

end Lexing

/-- The mark of the byte order. -/
def orderMark : Char := '\uFEFF'

/-- The tokens of a text. A mark of the byte order in front does not count; a second one
takes a column. -/
def Token.listOfText (text : String) : Except Flaw (List Token) := do
  let cs := text.toList
  let cs := if cs.head? = some orderMark then cs.drop 1 else cs
  if !cs.all isAllowed then throw .controlCharacter
  let c := Cursor.ofText cs
  let c := if c.peek = some orderMark then c.skip 1 else c
  let l ← Lexing.readFrom (cs.length + 1) (Lexing.start c)
  return l.tokens.toList

end ScriptSuite.Yaml
