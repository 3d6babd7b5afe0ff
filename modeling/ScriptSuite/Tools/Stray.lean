import ScriptSuite.Path.Location

/-!
Texts of programs.

What programs are given and hand on is bytes, while arguments, variables and command lines are
texts here. A byte that is no part of a character is written as a character that stands in for
it, one of the last of those that are left to private use. So a program can hand on bytes that it
cannot read, and can make files whose names are no texts. The characters that stand in are not
available to programs for themselves.
-/

namespace ScriptSuite.Stray

/-- The characters that stand in for bytes are this number and the byte. -/
def offset : Nat := 0x10FF00

def standIn (b : UInt8) : Char := Char.ofNat (offset + b.toNat)

/-- The byte that a character stands in for. Bytes below the first of these are characters. -/
def byte? (c : Char) : Option UInt8 :=
  if offset + 0x80 ≤ c.toNat then some (UInt8.ofNat (c.toNat - offset)) else none

/-- The character that bytes start with, and how many bytes it takes. -/
def firstChar? (bs : Bytes) : Option (Char × Nat) :=
  [1, 2, 3, 4].findSome? fun n =>
    match Text.decode? (bs.take n) with
    | some [c] => some (c, n)
    | _ => none

/-- The text of bytes, of which the first `skip` belong to a character that has been read. -/
def charsFrom : (skip : Nat) → Bytes → List Char
  | _, [] => []
  | skip + 1, _ :: bs => charsFrom skip bs
  | 0, b :: bs =>
    match firstChar? (b :: bs) with
    | some (c, n) => c :: charsFrom (n - 1) bs
    | none => standIn b :: charsFrom 0 bs

def charsOf (bs : Bytes) : List Char := charsFrom 0 bs

def encode (cs : List Char) : Bytes :=
  cs.flatMap fun c =>
    match byte? c with
    | some b => [b]
    | none => Text.encode [c]

def bytesOf (s : String) : Bytes := encode s.toList

/-! ### Names and paths -/

/-- The text of a name. -/
def spell : EntryName → List Char
  | .text cs => cs
  | .raw name => charsOf name.bytes

/-- The step that a step of a text stands for. -/
def stepOf : Component → Component
  | .name name => .name (.ofBytes (encode name.shown))
  | step => step

/-- Adds a step behind names; a step up takes back the name before it. -/
def walk (names : List EntryName) : Component → List EntryName
  | .name name => names ++ [name]
  | .up => names.dropLast
  | _ => names

/-- The location that a text names. -/
def locate (s : String) : Location :=
  let steps := (Path.mk s).components.map stepOf
  let front := steps.takeWhile fun step => !(step matches .name (.raw _))
  match (steps.drop front.length).foldl walk [] with
  | .raw name :: rest => .below (Path.ofComponents front) name rest
  | _ => .text ⟨s⟩

end ScriptSuite.Stray
