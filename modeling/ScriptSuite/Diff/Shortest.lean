import ScriptSuite.Diff.Edit

/-!
Shortest edit scripts.

The edit graph of two sequences is searched from both corners at once, along diagonals,
for a point that some shortest path passes; the parts before and after that point are
handled in the same way. What the sequences share at either end is taken off first.
-/

namespace ScriptSuite.Diff

structure Span where
  first : Nat
  last : Nat
  deriving DecidableEq, Repr

def Span.length (s : Span) : Nat := s.last - s.first

/-- For each diagonal the furthest position that was reached on it. -/
structure Frontier where
  offset : Nat
  reached : Array Nat

def Frontier.at (f : Frontier) (k : Int) : Nat :=
  f.reached.getD (k + f.offset).toNat 0

def Frontier.put (f : Frontier) (k : Int) (x : Nat) : Frontier :=
  { f with reached := f.reached.setIfInBounds (k + f.offset).toNat x }

/-- A frontier for diagonals up to `limit`, where nothing has been reached. -/
def Frontier.start (limit : Nat) : Frontier :=
  ⟨limit + 1, Array.replicate (2 * limit + 3) 0⟩

/-- How many elements two sequences share from `i` and `j` on, `limit` at most. -/
def sharedAfter (old new : Array String) : (limit i j : Nat) → Nat
  | 0, _, _ => 0
  | limit + 1, i, j =>
    match old[i]?, new[j]? with
    | some a, some b => if a = b then sharedAfter old new limit (i + 1) (j + 1) + 1 else 0
    | _, _ => 0

/-- How many elements two sequences share before `i` and `j`, `limit` at most. -/
def sharedBefore (old new : Array String) : (limit i j : Nat) → Nat
  | 0, _, _ => 0
  | limit + 1, i, j =>
    if i = 0 || j = 0 then 0
    else
      match old[i - 1]?, new[j - 1]? with
      | some a, some b => if a = b then sharedBefore old new limit (i - 1) (j - 1) + 1 else 0
      | _, _ => 0

/-- What two parts share at their start. -/
def sharedStart (old new : Array String) (o n : Span) : Nat :=
  sharedAfter old new (min o.length n.length) o.first n.first

/-- What two parts share at their end. -/
def sharedEnd (old new : Array String) (o n : Span) : Nat :=
  sharedBefore old new (min o.length n.length) o.last n.last

/-- The diagonals that are searched in round `d`, from the highest down. -/
def diagonals (d : Nat) : List Int :=
  (List.range (d + 1)).map fun (i : Nat) => (d : Int) - 2 * i

/-- The furthest position on diagonal `k` that the round before allows to step to. -/
def Frontier.step (f : Frontier) (d : Nat) (k : Int) : Nat :=
  if k = -(d : Int) || (k ≠ d && f.at (k - 1) < f.at (k + 1)) then f.at (k + 1)
  else f.at (k - 1) + 1

/-- A point that some shortest path through the edit graph of two parts passes. -/
def middlePoint (old new : Array String) (o n : Span) : Option (Nat × Nat) := Id.run do
  let width := o.length
  let height := n.length
  let delta : Int := (width : Int) - height
  let odd := delta % 2 = 1
  let rounds := (width + height + 1) / 2 + 1
  let mut forward := Frontier.start (rounds + 1)
  let mut backward := Frontier.start (rounds + 1)
  for d in List.range rounds do
    for k in diagonals d do
      let x := forward.step d k
      let y := (x : Int) - k
      let mut reached := x
      if 0 ≤ y && x < width && y < height then
        reached := x + sharedStart old new ⟨o.first + x, o.last⟩ ⟨n.first + y.toNat, n.last⟩
      forward := forward.put k reached
      if odd && (k - delta).natAbs + 1 ≤ d then
        if width ≤ reached + backward.at (-(k - delta)) then
          return some (o.first + x, n.first + y.toNat)
    for k in diagonals d do
      let x := backward.step d k
      let y := (x : Int) - k
      let mut reached := x
      if 0 ≤ y && x < width && y < height then
        reached := x + sharedEnd old new ⟨o.first, o.last - x⟩ ⟨n.first, n.last - y.toNat⟩
      backward := backward.put k reached
      if !odd && (k - delta).natAbs ≤ d then
        if width ≤ reached + forward.at (-(k - delta)) then
          let row := (reached : Int) - k
          return some (o.last - reached, n.last - row.toNat)
  return none

/-- An edit script for two parts. Each split leaves smaller parts, so that the number of
elements bounds the depth. -/
def editsWithin (old new : Array String) : (depth : Nat) → Span → Span → List Edit
  | 0, o, n => [.delete o.first o.length n.first, .insert o.first n.first n.length]
  | depth + 1, o, n =>
    let lead := sharedStart old new o n
    let o' : Span := ⟨o.first + lead, o.last⟩
    let n' : Span := ⟨n.first + lead, n.last⟩
    let tail := sharedEnd old new o' n'
    let oMid : Span := ⟨o'.first, o'.last - tail⟩
    let nMid : Span := ⟨n'.first, n'.last - tail⟩
    let middle :=
      if oMid.length = 0 && nMid.length = 0 then []
      else if nMid.length = 0 then [.delete oMid.first oMid.length nMid.first]
      else if oMid.length = 0 then [.insert oMid.first nMid.first nMid.length]
      else
        match middlePoint old new oMid nMid with
        | some (x, y) =>
          editsWithin old new depth ⟨oMid.first, x⟩ ⟨nMid.first, y⟩
            ++ editsWithin old new depth ⟨x, oMid.last⟩ ⟨y, nMid.last⟩
        | none =>
          [.delete oMid.first oMid.length nMid.first, .insert oMid.first nMid.first nMid.length]
    (if lead = 0 then [] else [.keep o.first n.first lead]) ++ middle
      ++ (if tail = 0 then [] else [.keep oMid.last nMid.last tail])

/-- An edit script for two sequences. -/
def shortestEdits (old new : Array String) : List Edit :=
  editsWithin old new (old.size + new.size + 1) ⟨0, old.size⟩ ⟨0, new.size⟩

end ScriptSuite.Diff
