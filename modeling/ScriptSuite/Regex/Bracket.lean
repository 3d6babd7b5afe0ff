import ScriptSuite.Regex.Escape

/-!
Classes of characters in brackets.

A class is a union of characters, ranges and classes. The signs for intersection,
difference and symmetric difference bind weaker than the union and join from the left.
-/

namespace ScriptSuite.Regex.Bracket

/-- How two sets are joined. -/
inductive Operator where
  | intersection
  | difference
  | symmetricDifference

/-- What two sets give. -/
def Operator.apply : Operator → Text.Ranges → Text.Ranges → Text.Ranges
  | intersection => Text.Ranges.inter
  | difference => Text.Ranges.difference
  | symmetricDifference => Text.Ranges.symmetricDifference

/-- A bracket that is open: whether it is negated, the set and the operator in front of the
current union, the union, how many items it has, and how deep the deepest one is. -/
structure Level where
  negated : Bool
  before : Option (Text.Ranges × Operator)
  union : Text.Ranges
  size : Nat
  deepest : Nat
  deriving Inhabited

namespace Level

/-- A bracket without an item. -/
def opened (negated : Bool) : Level := ⟨negated, none, Text.Ranges.empty, 0, 0⟩

def add (l : Level) (set : Text.Ranges) (depth : Nat) : Level :=
  { l with union := l.union.union set, size := l.size + 1, deepest := max l.deepest depth }

/-- How deep the current union is: a union of several items is one deeper than these. -/
def depth (l : Level) : Nat :=
  if l.size ≤ 1 then l.deepest else l.deepest + 1

/-- The set up to here. -/
def value (f : Flags) (l : Level) : Text.Ranges :=
  match l.before with
  | none => l.union
  | some (set, operator) => operator.apply (f.folded set) (f.folded l.union)

/-- Goes on with a new union after an operator. -/
def join (f : Flags) (l : Level) (operator : Operator) : Level :=
  ⟨l.negated, some (l.value f, operator), Text.Ranges.empty, 0, l.depth + 1⟩

/-- The class of a bracket that closes, and its depth. -/
def close (f : Flags) (l : Level) : Except Flaw (Text.Ranges × Nat) := do
  return (← f.classOf l.negated (l.value f), l.depth + 1)

end Level

/-- The set of a character in a class. A class of ASCII alone holds no other character. -/
def single (f : Flags) (c : Char) : Except Flaw Text.Ranges :=
  if f.everyLanguage || c.toNat < 0x80 then .ok (Text.Ranges.single c.toNat)
  else .error .needsUnicode

/-- Reads a character or an escape. -/
def readSign (f : Flags) : List Char → Except Flaw (Sign × List Char)
  | [] => .error .classUnclosed
  | '\\' :: cs => Sign.readEscape f cs
  | c :: cs => .ok (.literal c, cs)

/-- Reads a range, or what is no range. A hyphen makes a range unless a bracket or another
hyphen follows it. -/
def readRange (f : Flags) (cs : List Char) : Except Flaw (Text.Ranges × List Char) := do
  let (first, rest) ← readSign f cs
  let alone : Except Flaw (Text.Ranges × List Char) :=
    match first with
    | .literal c => do return (← single f c, rest)
    | .oneOf set => .ok (set, rest)
    | .look _ => .error .classEscape
  match f.skip rest with
  | [] => throw .classUnclosed
  | '-' :: after =>
    match f.skip after with
    | [] => throw .classUnclosed
    | ']' :: _ => alone
    | '-' :: _ => alone
    | after =>
      let (last, rest) ← readSign f after
      match first, last with
      | .literal a, .literal b =>
        let _ ← single f a
        let _ ← single f b
        if a.toNat ≤ b.toNat then return (⟨#[(a.toNat, b.toNat)]⟩, rest)
        else throw .classRangeReversed
      | _, _ => throw .classRangeNoCharacter
  | _ => alone

/-- Reads hyphens at the front of a bracket: they stand for themselves. -/
def readHyphens (f : Flags) (fuel : Nat) (l : Level) (cs : List Char) : Level × List Char :=
  match fuel, cs with
  | fuel + 1, '-' :: rest =>
    readHyphens f fuel (l.add (Text.Ranges.single '-'.toNat) 0) (f.skip rest)
  | _, cs => (l, cs)

/-- Reads what follows an opening bracket. A closing bracket in front stands for itself. -/
def readOpening (f : Flags) (cs : List Char) : Level × List Char :=
  let (negated, rest) :=
    match f.skip cs with
    | '^' :: rest => (true, f.skip rest)
    | rest => (false, rest)
  let (l, rest) := readHyphens f rest.length (Level.opened negated) rest
  match rest with
  | ']' :: after =>
    if l.size = 0 then (l.add (Text.Ranges.single ']'.toNat) 0, f.skip after) else (l, rest)
  | _ => (l, rest)

/-- Reads a named class of ASCII characters after an opening bracket, if one stands there. -/
def readNamed? (f : Flags) (cs : List Char) : Option (Except Flaw Text.Ranges × List Char) :=
  match cs with
  | ':' :: rest =>
    let (negated, rest) :=
      match rest with
      | '^' :: rest => (true, rest)
      | rest => (false, rest)
    let name := rest.takeWhile (· != ':')
    match rest.dropWhile (· != ':') with
    | ':' :: ']' :: rest =>
      (Flags.namedClasses.find? fun n => n.1 = String.ofList name).map fun n =>
        (f.classOf negated n.2, rest)
    | _ => none
  | _ => none

/-- Reads up to the end of the outermost bracket. `outer` holds the brackets around the
current one. The fuel bounds the number of items. -/
def readItems (f : Flags) :
    Nat → Level → List Level → List Char → Except Flaw (Text.Ranges × Nat × List Char)
  | 0, _, _, _ => .error .classUnclosed
  | fuel + 1, l, outer, cs =>
    match f.skip cs with
    | [] => .error .classUnclosed
    | '[' :: rest =>
      match readNamed? f rest with
      | some (named, rest) => do
        readItems f fuel (l.add (← named) 0) outer rest
      | none =>
        let (inner, rest) := readOpening f rest
        readItems f fuel inner (l :: outer) rest
    | ']' :: rest => do
      let (set, depth) ← l.close f
      match outer with
      | [] => return (set, depth, rest)
      | next :: outer => readItems f fuel (next.add set depth) outer rest
    | '&' :: '&' :: rest => readItems f fuel (l.join f .intersection) outer rest
    | '-' :: '-' :: rest => readItems f fuel (l.join f .difference) outer rest
    | '~' :: '~' :: rest => readItems f fuel (l.join f .symmetricDifference) outer rest
    | cs => do
      let (set, rest) ← readRange f cs
      readItems f fuel (l.add set 0) outer rest

/-- Reads a class after its opening bracket: the class, its depth and the rest. -/
def read (f : Flags) (cs : List Char) : Except Flaw (Text.Ranges × Nat × List Char) :=
  let (l, rest) := readOpening f cs
  readItems f (rest.length + 1) l [] rest

end ScriptSuite.Regex.Bracket
