import ScriptSuite.Host.Files
import ScriptSuite.Text.Blank
import ScriptSuite.Tools.Stray

/-!
Patterns of the shell.

A pattern is made of signs, of which all but a plain character stand for several texts. A
field with such signs stands for the files that it matches, or for itself if there is none.
-/

namespace ScriptSuite.Shell

/-- A character, and whether it may be a sign of a pattern. -/
abbrev Spot := Char × Bool

/-- A sign of a pattern. -/
inductive Sign where
  | exactly (c : Char)
  | anyText
  | anyOne
  /-- One character between the ends of one of the ranges, or between none of them. -/
  | oneOf (isNegated : Bool) (ranges : List (Char × Char))
  deriving DecidableEq, Repr

/-- The ranges of the characters in brackets. -/
def rangesOf : List Char → List (Char × Char)
  | a :: '-' :: b :: rest => (a, b) :: rangesOf rest
  | a :: rest => (a, a) :: rangesOf rest
  | [] => []

/-- Reads what follows an opening bracket: the characters up to the closing one, which is
not the first, and how many spots they take. -/
def bracket? (spots : List Spot) : Option (Sign × Nat) :=
  let isNegated := spots.head? = some ('!', true)
  let inside := if isNegated then spots.tail else spots
  match inside with
  | [] => none
  | first :: more =>
    let rest := more.takeWhile (· != (']', true))
    if rest.length = more.length then none
    else
      some (.oneOf isNegated (rangesOf ((first :: rest).map Prod.fst)),
        rest.length + (if isNegated then 3 else 2))

/-- The signs of a field, of which the first `skip` spots belong to a sign that has been
read. -/
def signsFrom : (skip : Nat) → List Spot → List Sign
  | _, [] => []
  | skip + 1, _ :: spots => signsFrom skip spots
  | 0, (c, isSign) :: spots =>
    if isSign && c = '*' then .anyText :: signsFrom 0 spots
    else if isSign && c = '?' then .anyOne :: signsFrom 0 spots
    else if isSign && c = '[' then
      match bracket? spots with
      | some (sign, taken) => sign :: signsFrom taken spots
      | none => .exactly c :: signsFrom 0 spots
    else .exactly c :: signsFrom 0 spots

/-- The signs of a field. -/
def signsOf (spots : List Spot) : List Sign := signsFrom 0 spots

/-- Whether a character fits a sign that stands for one. -/
def Sign.fits (c : Char) : Sign → Bool
  | exactly e => c = e
  | anyText => true
  | anyOne => true
  | oneOf isNegated ranges =>
    (ranges.any fun range => range.1 ≤ c && c ≤ range.2) != isNegated

/-- The ends of a text, the longest first. -/
def endsOf : List Char → List (List Char)
  | [] => [[]]
  | c :: cs => (c :: cs) :: endsOf cs

/-- Whether signs match a whole text. -/
def doMatch : List Sign → List Char → Bool
  | [], cs => cs.isEmpty
  | .anyText :: signs, cs => (endsOf cs).any fun rest => doMatch signs rest
  | _ :: _, [] => false
  | sign :: signs, c :: cs => sign.fits c && doMatch signs cs

/-- The text of a field. -/
def spotText (spots : List Spot) : String := String.ofList (spots.map Prod.fst)

/-! ### Trimming -/

/-- Drops the shortest or longest part that signs match from the front of a text. -/
def trimFront (isLongest : Bool) (signs : List Sign) (cs : List Char) : List Char :=
  let lengths := List.range (cs.length + 1)
  let lengths := if isLongest then lengths.reverse else lengths
  match lengths.find? fun n => doMatch signs (cs.take n) with
  | some n => cs.drop n
  | none => cs

/-- Drops the shortest or longest part that signs match from the end of a text. -/
def trimBack (isLongest : Bool) (signs : List Sign) (cs : List Char) : List Char :=
  let ends := if isLongest then endsOf cs else (endsOf cs).reverse
  match ends.find? fun rest => doMatch signs rest with
  | some rest => cs.take (cs.length - rest.length)
  | none => cs

/-! ### Names of files -/

/-- Whether a field has a sign that stands for several texts. -/
def hasSign (spots : List Spot) : Bool :=
  (signsOf spots).any fun sign =>
    match sign with
    | .exactly _ => false
    | _ => true

/-- Splits a field at slashes. -/
def splitSpots : List Spot → List (List Spot)
  | [] => [[]]
  | spot :: spots =>
    if spot.1 = '/' then [] :: splitSpots spots
    else
      match splitSpots spots with
      | [] => [[spot]]
      | part :: parts => (spot :: part) :: parts

/-- The names in a folder that a part of a field matches, sorted. A dot in front has to be
written as one. -/
def namesIn (files : Node) (folder : Place) (base : String) (part : List Spot) : List String :=
  match files.nodeFrom folder (Stray.locate (if base.isEmpty then "." else base)) with
  | .ok (.folder _ inside) =>
    let isHiddenToo := (part.head?.map Prod.fst) = some '.'
    let names := (inside.entries.map fun entry => Stray.spell entry.1).filter fun name =>
      (isHiddenToo || name.head? != some '.') && doMatch (signsOf part) name
    (names.map String.ofList).mergeSort fun a b => !(b < a)
  | _ => []

/-- The paths that the parts of a field match, below a path that ends with a slash or is
empty. -/
def pathsFrom (files : Node) (folder : Place) : String → List (List Spot) → List String
  | base, [] => [base]
  | base, [part] =>
    if hasSign part then (namesIn files folder base part).map (base ++ ·)
    else
      let path := base ++ spotText part
      if (files.nodeFrom folder (Stray.locate path)).isOk then [path] else []
  | base, part :: parts =>
    let names := if hasSign part then namesIn files folder base part else [spotText part]
    names.flatMap fun name => pathsFrom files folder (base ++ name ++ "/") parts

/-- What a field stands for. -/
def pathsOf (files : Node) (folder : Place) (spots : List Spot) : List String :=
  if !hasSign spots then [spotText spots]
  else
    match pathsFrom files folder "" (splitSpots spots) with
    | [] => [spotText spots]
    | paths => paths

example : doMatch (signsOf ("a*[!x-z]?".toList.map fun c => (c, true))) "abcd".toList = true := by
  decide

end ScriptSuite.Shell
