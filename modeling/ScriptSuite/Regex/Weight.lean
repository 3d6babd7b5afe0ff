import ScriptSuite.Regex.Syntax
import ScriptSuite.Text.Utf8

/-!
How large patterns become.

A pattern is laid out over the bytes of characters, with its repetitions written out. A set
of characters becomes chains of ranges of bytes, of which those that begin alike share their
beginning.
-/

namespace ScriptSuite.Regex

/-! ### Ranges of bytes -/

/-- A chain of ranges of bytes. -/
abbrev ByteChain := List (UInt8 × UInt8)

/-- The chain from the bytes of one character to those of another. -/
def chainOf (low high : Nat) : ByteChain :=
  (Text.encode [Char.ofNat low]).zip (Text.encode [Char.ofNat high])

/-- Where ranges of characters have to be cut: behind the last code of each length of
encoding, and around the codes that are none of characters. -/
def lengthEnds : List Nat := [0x7F, 0x7FF, 0xD7FF, 0xDFFF, 0xFFFF]

/-- Cuts a range behind the first of the given codes that lies within. -/
def cutAt (low high : Nat) : List Nat → Option Nat
  | [] => none
  | code :: codes => if low ≤ code && code < high then some code else cutAt low high codes

/-- Where a range has to be cut so that the last bytes of its encodings run through all
values: behind which code, if it has to be. `size` is the number of codes that share all
bytes but the last ones. -/
def cutWithin (low high size : Nat) : Option Nat :=
  if low / size = high / size then none
  else if low % size != 0 then some (low / size * size + size - 1)
  else if high % size != size - 1 then some (high / size * size - 1)
  else none

/-- The numbers of codes that share all bytes but the last one, two or three. -/
def shareSizes : List Nat := [64, 4096, 262144]

/-- The chains of a range of characters. A range is cut less than thirty times. -/
def chainsOf : (fuel : Nat) → (low high : Nat) → List ByteChain
  | 0, _, _ => []
  | fuel + 1, low, high =>
    let cut? :=
      match cutAt low high lengthEnds with
      | some code => some code
      | none => if high ≤ 0x7F then none else shareSizes.findSome? (cutWithin low high)
    match cut? with
    | some code => chainsOf fuel low code ++ chainsOf fuel (code + 1) high
    | none => if 0xD800 ≤ low && high ≤ 0xDFFF then [] else [chainOf low high]

/-- How many ranges two chains have in common at their beginning. -/
def sharedLength : ByteChain → ByteChain → Nat
  | a :: as, b :: bs => if a = b then sharedLength as bs + 1 else 0
  | _, _ => 0

/-- The number of ranges of sorted chains, those that are shared counted once. -/
def chainNodes : (before : ByteChain) → List ByteChain → Nat
  | _, [] => 0
  | before, chain :: chains =>
    chain.length - sharedLength before chain + chainNodes chain chains

example : chainsOf 30 0xE9 0xE9 = [[(0xC3, 0xC3), (0xA9, 0xA9)]] := by decide
example : (chainsOf 30 0 0x10FFFF).length = 9 := by decide

/-! ### Weights -/

/-- The bytes that a state takes up. -/
def stateWeight : Nat := 32

/-- The bytes that a fork takes up. -/
def forkWeight : Nat := stateWeight + 8

/-- The bytes that a set of characters takes up: a single character as many states as it has
bytes, one of ASCII two states and what its ranges take, any other a state for each range of
bytes and a way to each chain. -/
def setWeight (set : Text.Ranges) : Nat :=
  match set.toPairs with
  | [] => stateWeight
  | [(low, high)] =>
    if low = high then (chainOf low low).length * stateWeight
    else if high ≤ 0x7F then 2 * stateWeight
    else
      let chains := chainsOf 30 low high
      (2 + chainNodes [] chains) * stateWeight + 4 * chains.length
  | ranges =>
    if ranges.all fun range => range.2 ≤ 0x7F then 2 * stateWeight + 8 * ranges.length
    else
      let chains := ranges.flatMap fun range => chainsOf 30 range.1 range.2
      (2 + chainNodes [] chains) * stateWeight + 4 * chains.length

namespace Expression

/-- The bytes that a repeated pattern takes up. -/
def repeatedWeight (body : Nat) (canBeEmpty : Bool) (least : Nat) : Option Nat → Nat
  | none =>
    match least with
    | 0 => if canBeEmpty then body + 2 * forkWeight + stateWeight else body + forkWeight
    | least + 1 => (least + 1) * body + forkWeight
  | some most =>
    if most = least then (if least = 0 then stateWeight else least * body)
    else least * body + (most - least) * (forkWeight + body) + stateWeight

/-- The bytes that a pattern takes up once its repetitions are written out. -/
def weight : Expression → Nat
  | empty => stateWeight
  | characters set => setWeight set
  | look _ => stateWeight
  | sequence first second => first.weight + second.weight
  | either preferred other => forkWeight + stateWeight + preferred.weight + other.weight
  | repeated body least most _ => repeatedWeight body.weight body.canBeEmpty least most
  | group body => 2 * stateWeight + body.weight

/-- The most bytes that a pattern may take up. -/
def weightLimit : Nat := 10485760

end Expression
end ScriptSuite.Regex
