/-!
Sets of code points as sorted ranges.

A table is written as text, in hexadecimal, a blank between two ranges and a hyphen
within one (`41-5a 5f`). Membership is a binary search. The sets form an algebra: union
and complement are defined on ranges, the rest through them.
-/

namespace ScriptSuite.Text

/-- Sorted ranges of code points, both ends included. -/
structure Ranges where
  bounds : Array (Nat × Nat)
  deriving Repr, Inhabited

namespace Ranges

def hexDigit? (c : Char) : Option Nat :=
  if '0' ≤ c && c ≤ '9' then some (c.toNat - '0'.toNat)
  else if 'a' ≤ c && c ≤ 'f' then some (c.toNat - 'a'.toNat + 10)
  else if 'A' ≤ c && c ≤ 'F' then some (c.toNat - 'A'.toNat + 10)
  else none

/-- What has been read of a table: finished ranges, the start of the current range if
a hyphen was seen, and the current number if a digit was seen. -/
structure Reading where
  done : Array (Nat × Nat)
  low : Option Nat
  number : Option Nat

/-- Finishes the current range. -/
def Reading.close (r : Reading) : Reading :=
  match r.number with
  | none => ⟨r.done, none, none⟩
  | some n => ⟨r.done.push (r.low.getD n, n), none, none⟩

/-- Reads one character of a table. -/
def Reading.step (r : Reading) (c : Char) : Reading :=
  match hexDigit? c with
  | some d => { r with number := some (r.number.getD 0 * 16 + d) }
  | none => if c = '-' then ⟨r.done, r.number, none⟩ else r.close

/-- The set that a table writes down. -/
def ofText (table : String) : Ranges :=
  ⟨(table.foldl Reading.step ⟨#[], none, none⟩).close.done⟩

/-- Searches the ranges with indices from `low` up to `high`. -/
def searchFrom (bounds : Array (Nat × Nat)) (n low high : Nat) : Bool :=
  if _h : low < high then
    let mid := (low + high) / 2
    match bounds[mid]? with
    | none => false
    | some (first, last) =>
      if n < first then searchFrom bounds n low mid
      else if last < n then searchFrom bounds n (mid + 1) high
      else true
  else false
termination_by high - low

/-- Whether a code point lies in one of the ranges. -/
def contains (r : Ranges) (n : Nat) : Bool :=
  searchFrom r.bounds n 0 r.bounds.size

/-- Whether a character lies in one of the ranges. -/
def holds (r : Ranges) (c : Char) : Bool :=
  r.contains c.toNat

/-! ### The algebra of sets -/

def lastCode : Nat := 0x10FFFF

/-- Joins a range to sorted ranges that start no later, the newest of them first. -/
def join : List (Nat × Nat) → Nat × Nat → List (Nat × Nat)
  | [], range => [range]
  | (first, last) :: earlier, range =>
    if range.1 ≤ last + 1 then (first, max last range.2) :: earlier
    else range :: (first, last) :: earlier

/-- The set that ranges cover, in whatever order they stand. -/
def ofPairs (pairs : List (Nat × Nat)) : Ranges :=
  let sorted := pairs.mergeSort fun a b => a.1 ≤ b.1
  ⟨(sorted.foldl join []).reverse.toArray⟩

/-- The ranges in order. -/
def toPairs (r : Ranges) : List (Nat × Nat) :=
  r.bounds.toList

def empty : Ranges := ⟨#[]⟩

def isEmpty (r : Ranges) : Bool := r.bounds.isEmpty

def single (n : Nat) : Ranges := ⟨#[(n, n)]⟩

def union (r s : Ranges) : Ranges :=
  ofPairs (r.toPairs ++ s.toPairs)

def unions (sets : List Ranges) : Ranges :=
  ofPairs (sets.flatMap toPairs)

/-- The gaps between sorted ranges, from `low` on. -/
def gapsFrom (low : Nat) : List (Nat × Nat) → List (Nat × Nat)
  | [] => if low ≤ lastCode then [(low, lastCode)] else []
  | (first, last) :: later =>
    if low < first then (low, first - 1) :: gapsFrom (last + 1) later
    else gapsFrom (last + 1) later

def complement (r : Ranges) : Ranges :=
  ⟨(gapsFrom 0 r.toPairs).toArray⟩

def inter (r s : Ranges) : Ranges :=
  (r.complement.union s.complement).complement

def difference (r s : Ranges) : Ranges :=
  (r.complement.union s).complement

/-- What lies in exactly one of the sets. -/
def symmetricDifference (r s : Ranges) : Ranges :=
  (r.union s).difference (r.inter s)

end Ranges
end ScriptSuite.Text
