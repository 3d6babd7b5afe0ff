import ScriptSuite.Regex.Bracket
import ScriptSuite.Text.Number

/-!
Reading of patterns.

A pattern is read from left to right with the open groups on a stack. Flags hold from
where they stand to the end of the innermost group.
-/

namespace ScriptSuite.Regex

/-- A part of a pattern: the tree, how deep it nests, and whether it only sets flags. -/
structure Piece where
  expression : Expression
  depth : Nat
  isFlags : Bool
  deriving Inhabited

/-- A part that does not nest. -/
def Piece.leaf (e : Expression) : Piece := ⟨e, 0, false⟩

/-- A group that is open, or the whole pattern: the flags in force where it stands, whether
it is kept apart, the alternatives that are finished, and the parts of the current one;
the newest stand first. -/
structure Level where
  flags : Flags
  captures : Bool
  alternatives : List Piece
  pieces : List Piece
  deriving Inhabited

namespace Level

/-- The current alternative. -/
def alternative (l : Level) : Piece :=
  match l.pieces with
  | [] => .leaf .empty
  | [piece] => piece
  | last :: earlier =>
    let join (rest : Piece) (p : Piece) : Piece :=
      ⟨.sequence p.expression rest.expression, max p.depth rest.depth, false⟩
    let whole := earlier.foldl join last
    { whole with depth := whole.depth + 1, isFlags := false }

/-- The whole of a level. -/
def whole (l : Level) : Piece :=
  match l.alternatives with
  | [] => l.alternative
  | earlier =>
    let join (rest : Piece) (p : Piece) : Piece :=
      ⟨.either p.expression rest.expression, max p.depth rest.depth, false⟩
    let whole := earlier.foldl join l.alternative
    { whole with depth := whole.depth + 1, isFlags := false }

def add (l : Level) (p : Piece) : Level := { l with pieces := p :: l.pieces }

end Level

/-- How far a pattern has been read. -/
structure Reading where
  flags : Flags
  current : Level
  outer : List Level
  names : List String
  deriving Inhabited

namespace Reading

/-- Nothing has been read. -/
def start : Reading := ⟨{}, ⟨{}, false, [], []⟩, [], []⟩

def add (r : Reading) (p : Piece) : Reading := { r with current := r.current.add p }

def openGroup (r : Reading) (captures : Bool) (flags : Flags) : Reading :=
  { r with
    flags := flags
    current := ⟨r.flags, captures, [], []⟩
    outer := r.current :: r.outer }

def closeGroup (r : Reading) : Except Flaw Reading :=
  match r.outer with
  | [] => .error .groupUnopened
  | next :: outer =>
    let body := r.current.whole
    let e := if r.current.captures then .group body.expression else body.expression
    .ok { r with
      flags := r.current.flags
      current := next.add ⟨e, body.depth + 1, false⟩
      outer := outer }

/-- Takes the last part, for an operator that repeats it. -/
def takeOperand (r : Reading) : Except Flaw (Piece × Reading) :=
  match r.current.pieces with
  | [] => .error .operandMissing
  | piece :: pieces =>
    if piece.isFlags then .error .operandMissing
    else .ok (piece, { r with current := { r.current with pieces := pieces } })

def repeatLast (r : Reading) (least : Nat) (most : Option Nat) (greedy : Bool) :
    Except Flaw Reading := do
  let (piece, r) ← r.takeOperand
  return r.add
    ⟨piece.expression.repeats least most (greedy != r.flags.swapped), piece.depth + 1, false⟩

/-- Whether a question mark that makes a repetition lazy stands in front, and the rest. -/
def takeLazy : List Char → Bool × List Char
  | '?' :: rest => (true, rest)
  | rest => (false, rest)

/-- Reads a number. Blanks may stand around it, and where blanks do not count also within. -/
def readNumber (f : Flags) (inComment : Bool) (number : Option Nat) :
    List Char → Option Nat × List Char
  | [] => (number, [])
  | c :: cs =>
    if inComment then readNumber f (c != '\n') number cs
    else if c.isDigit then
      readNumber f false (some (number.getD 0 * 10 + (c.toNat - '0'.toNat))) cs
    else if f.verbose && c = '#' && number.isSome then readNumber f true number cs
    else if Text.isBlank c && (f.verbose || number.isNone) then readNumber f false number cs
    else (number, (c :: cs).dropWhile Text.isBlank)

/-- Reads a number that has to be there and to fit in 32 bits. -/
def requireNumber : Option Nat → Except Flaw Nat
  | none => .error .countEmpty
  | some n => if n < Text.limit32 then .ok n else .error .countInvalid

/-- Reads the count of a repetition after its opening brace. -/
def readCounted (r : Reading) (cs : List Char) : Except Flaw (Reading × List Char) := do
  let _ ← r.takeOperand
  let f := r.flags
  let (first, rest) := readNumber f false none (f.skip cs)
  let (least, most, rest) ← match rest with
    | ',' :: rest =>
      match f.skip rest with
      | [] => throw .countUnclosed
      | '\x7d' :: rest => pure (← requireNumber first, none, '\x7d' :: rest)
      | rest => do
        let least ← requireNumber first
        let (second, rest) := readNumber f false none rest
        let most ← requireNumber second
        pure (least, some most, rest)
    | rest => do
      let count ← requireNumber first
      pure (count, some count, rest)
  match rest with
  | '\x7d' :: rest =>
    let (isLazy, rest) := takeLazy (f.skip rest)
    if (most.getD least) < least then throw .countReversed
    return (← r.repeatLast least most !isLazy, rest)
  | _ => throw .countUnclosed

/-- Whether a character may stand in the name of a group. -/
def isNameLetter (first : Bool) (c : Char) : Bool :=
  c = '_' || Property.alphabetic.holds c
    || (!first && (c = '.' || c = '[' || c = ']'
      || (Property.inCategories ["nd", "nl", "no"]).holds c))

/-- Reads the name of a group, and opens the group. -/
def readName (r : Reading) (cs : List Char) : Except Flaw (Reading × List Char) :=
  let name := cs.takeWhile (· != '>')
  match cs.dropWhile (· != '>') with
  | [] => .error .groupNameUnclosed
  | _ :: rest =>
    match name with
    | [] => .error .groupNameEmpty
    | c :: others =>
      let text := String.ofList name
      if !isNameLetter true c || !others.all (isNameLetter false) then .error .groupNameInvalid
      else if r.names.contains text then .error .groupNameRepeated
      else .ok ({ r.openGroup true r.flags with names := text :: r.names }, rest)

/-- Reads flags up to the sign that ends them: the flags, whether there were any, whether a
group follows, and the rest. -/
def readFlags (f : Flags) (seen : List Char) (on dangling : Bool) :
    List Char → Except Flaw (Flags × Bool × Bool × List Char)
  | [] => .error .flagsUnfinished
  | c :: cs =>
    if c = ':' || c = ')' then
      if dangling then .error .flagNegationDangling
      else .ok (f, !seen.isEmpty, c = ':', cs)
    else if c = '-' then
      if seen.contains '-' then .error .flagNegationRepeated
      else readFlags f ('-' :: seen) false true cs
    else
      match f.put? c on with
      | none => .error .flagUnknown
      | some f =>
        if seen.contains c then .error .flagRepeated
        else readFlags f (c :: seen) on false cs

/-- Reads what follows an opening parenthesis. -/
def readGroup (r : Reading) (cs : List Char) : Except Flaw (Reading × List Char) :=
  match r.flags.skip cs with
  | '?' :: '=' :: _ => .error .lookAround
  | '?' :: '!' :: _ => .error .lookAround
  | '?' :: '<' :: '=' :: _ => .error .lookAround
  | '?' :: '<' :: '!' :: _ => .error .lookAround
  | '?' :: 'P' :: '<' :: rest => r.readName rest
  | '?' :: '<' :: rest => r.readName rest
  | '?' :: [] => .error .groupUnclosed
  | '?' :: rest => do
    let (flags, some_, isGroup, rest) ← readFlags r.flags [] true false rest
    if isGroup then return (r.openGroup false flags, rest)
    else if !some_ then throw .operandMissing
    else return ({ r with flags := flags }.add ⟨.empty, 0, true⟩, rest)
  | rest => .ok (r.openGroup true r.flags, rest)

/-- Adds what a sign stands for. -/
def addSign (r : Reading) : Sign → Reading
  | .literal c => r.add (.leaf (r.flags.literal c))
  | .oneOf set => r.add (.leaf (.characters set))
  | .look condition => r.add (.leaf (.look condition))

/-- Reads on by one part, which begins with `c`. -/
def step (r : Reading) (c : Char) (cs : List Char) : Except Flaw (Reading × List Char) :=
  let operator (least : Nat) (most : Option Nat) : Except Flaw (Reading × List Char) := do
    let (isLazy, rest) := takeLazy cs
    return (← r.repeatLast least most !isLazy, rest)
  match c with
  | '(' => r.readGroup cs
  | ')' => do return (← r.closeGroup, cs)
  | '|' =>
    let current := r.current
    .ok ({ r with
      current :=
        { current with
          alternatives := current.alternative :: current.alternatives
          pieces := [] } }, cs)
  | '[' => do
    let (set, depth, rest) ← Bracket.read r.flags cs
    return (r.add ⟨.characters set, depth, false⟩, rest)
  | '?' => operator 0 (some 1)
  | '*' => operator 0 none
  | '+' => operator 1 none
  | '\x7b' => r.readCounted cs
  | '\\' => do
    let (sign, rest) ← Sign.readEscape r.flags cs
    return (r.addSign sign, rest)
  | '.' => do return (r.add (.leaf (← r.flags.dot)), cs)
  | '^' => .ok (r.add (.leaf (.look r.flags.caret)), cs)
  | '$' => .ok (r.add (.leaf (.look r.flags.dollar)), cs)
  | c => .ok (r.add (.leaf (r.flags.literal c)), cs)

/-- Reads a pattern to its end. Every part takes a character, so the length of the pattern
is fuel enough. -/
def readFrom : Nat → Reading → List Char → Except Flaw Reading
  | 0, r, _ => .ok r
  | fuel + 1, r, cs =>
    match r.flags.skip cs with
    | [] => .ok r
    | c :: rest => do
      let (r, rest) ← r.step c rest
      readFrom fuel r rest

end Reading

/-- How deep parts of a pattern may nest. -/
def deepest : Nat := 250

def Expression.parse (source : List Char) : Except Flaw Expression := do
  let r ← Reading.readFrom (source.length + 1) Reading.start source
  if !r.outer.isEmpty then throw .groupUnclosed
  let whole := r.current.whole
  if whole.depth > deepest then throw .tooDeep
  return whole.expression

end ScriptSuite.Regex
