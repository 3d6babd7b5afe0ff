/-!
Edits between two sequences.

An edit covers a part of the old sequence, a part of the new one, or a part that both
have. An edit script lists edits in order, so that together they cover both sequences.
-/

namespace ScriptSuite.Diff

/-- What an edit does. -/
inductive EditKind where
  | keep
  | delete
  | insert
  | replace
  deriving DecidableEq, Repr

/-- An edit: the part of the old sequence from `old` on and the part of the new sequence
from `new` on that it covers. A kept part has the same length in both. -/
structure Edit where
  kind : EditKind
  old : Nat
  oldLength : Nat
  new : Nat
  newLength : Nat
  deriving DecidableEq, Repr

namespace Edit

def keep (old new length : Nat) : Edit := ⟨.keep, old, length, new, length⟩

def delete (old length new : Nat) : Edit := ⟨.delete, old, length, new, 0⟩

def insert (old new length : Nat) : Edit := ⟨.insert, old, 0, new, length⟩

def oldEnd (e : Edit) : Nat := e.old + e.oldLength

def newEnd (e : Edit) : Nat := e.new + e.newLength

def isEmpty (e : Edit) : Bool := e.oldLength = 0 && e.newLength = 0

/-- The edit, some elements earlier. -/
def shiftLeft (e : Edit) (n : Nat) : Edit := { e with old := e.old - n, new := e.new - n }

/-- The edit, some elements later. -/
def shiftRight (e : Edit) (n : Nat) : Edit := { e with old := e.old + n, new := e.new + n }

/-- The edit with some elements more at its end. Only the sides that it covers grow. -/
def growRight (e : Edit) (n : Nat) : Edit :=
  match e.kind with
  | .keep | .replace => { e with oldLength := e.oldLength + n, newLength := e.newLength + n }
  | .delete => { e with oldLength := e.oldLength + n }
  | .insert => { e with newLength := e.newLength + n }

/-- The edit with some elements less at its end. -/
def shrinkRight (e : Edit) (n : Nat) : Edit :=
  match e.kind with
  | .keep | .replace => { e with oldLength := e.oldLength - n, newLength := e.newLength - n }
  | .delete => { e with oldLength := e.oldLength - n }
  | .insert => { e with newLength := e.newLength - n }

/-- The edit with some elements more at its start. -/
def growLeft (e : Edit) (n : Nat) : Edit := (e.growRight n).shiftLeft n

/-- The edit with some elements less at its start. -/
def shrinkLeft (e : Edit) (n : Nat) : Edit := (e.shrinkRight n).shiftRight n

end Edit
end ScriptSuite.Diff
