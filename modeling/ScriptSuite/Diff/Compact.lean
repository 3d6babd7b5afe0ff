import ScriptSuite.Diff.Shortest

/-!
Compact edit scripts.

Each deletion, and after that each insertion, is moved over the kept parts around it as
far as it goes, first up and then down; edits of one kind that meet are merged, edits of
different kinds change places. At last kept parts that touch become one, and a deletion
beside an insertion becomes a replacement.
-/

namespace ScriptSuite.Diff

/-- Puts an element in front of the one with index `i`. -/
def insertBefore (es : Array Edit) (i : Nat) (e : Edit) : Array Edit :=
  es.extract 0 i ++ #[e] ++ es.extract i es.size

def leaveOut (es : Array Edit) (i : Nat) : Array Edit :=
  es.extract 0 i ++ es.extract (i + 1) es.size

def adjust (es : Array Edit) (i : Nat) (f : Edit → Edit) : Array Edit :=
  es.modify i f

def kindAt (es : Array Edit) (i : Nat) : Option EditKind :=
  es[i]?.map Edit.kind

/-- Moves the edit with index `i` up as far as it goes. Gives the script and the edit's
index. Each step moves the edit or shortens the script, which bounds `steps`. -/
def moveUp (old new : Array String) : (steps : Nat) → Array Edit → Nat → Array Edit × Nat
  | 0, es, i => (es, i)
  | steps + 1, es, i =>
    if i = 0 then (es, i)
    else
      match es[i - 1]?, es[i]? with
      | some before, some this =>
        match this.kind, before.kind with
        | .insert, .keep | .delete, .keep =>
          let shared := sharedEnd old new ⟨before.old, before.oldEnd⟩ ⟨this.new, this.newEnd⟩
          if shared = 0 then
            if before.isEmpty then moveUp old new steps (leaveOut es (i - 1)) (i - 1) else (es, i)
          else
            let es :=
              if kindAt es (i + 1) = some .keep then adjust es (i + 1) (·.growLeft shared)
              else
                insertBefore es (i + 1)
                  (.keep (before.oldEnd - shared) (this.newEnd - shared) shared)
            let es := adjust es i (·.shiftLeft shared)
            let es := adjust es (i - 1) (·.shrinkRight shared)
            if before.oldLength = shared then moveUp old new steps (leaveOut es (i - 1)) (i - 1)
            else moveUp old new steps es i
        | .insert, .delete | .delete, .insert =>
          moveUp old new steps ((es.setIfInBounds (i - 1) this).setIfInBounds i before) (i - 1)
        | .insert, .insert =>
          let es := adjust es (i - 1) (·.growRight this.newLength)
          moveUp old new steps (leaveOut es i) (i - 1)
        | .delete, .delete =>
          let es := adjust es (i - 1) (·.growRight this.oldLength)
          moveUp old new steps (leaveOut es i) (i - 1)
        | _, _ => (es, i)
      | _, _ => (es, i)

/-- Moves the edit with index `i` down as far as it goes. -/
def moveDown (old new : Array String) : (steps : Nat) → Array Edit → Nat → Array Edit × Nat
  | 0, es, i => (es, i)
  | steps + 1, es, i =>
    match es[i]?, es[i + 1]? with
    | some this, some after =>
      match this.kind, after.kind with
      | .insert, .keep | .delete, .keep =>
        let shared := sharedStart old new ⟨after.old, after.oldEnd⟩ ⟨this.new, this.newEnd⟩
        if shared = 0 then
          if after.isEmpty then moveDown old new steps (leaveOut es (i + 1)) i else (es, i)
        else
          let joins := i ≠ 0 && kindAt es (i - 1) = some .keep
          let es :=
            if joins then adjust es (i - 1) (·.growRight shared)
            else insertBefore es i (.keep after.old this.new shared)
          let i := if joins then i else i + 1
          let es := adjust es i (·.shiftRight shared)
          let es := adjust es (i + 1) (·.shrinkLeft shared)
          if after.oldLength = shared then moveDown old new steps (leaveOut es (i + 1)) i
          else moveDown old new steps es i
      | .insert, .delete | .delete, .insert =>
        moveDown old new steps ((es.setIfInBounds i after).setIfInBounds (i + 1) this) (i + 1)
      | .insert, .insert =>
        let es := adjust es i (·.growRight after.newLength)
        moveDown old new steps (leaveOut es (i + 1)) i
      | .delete, .delete =>
        let es := adjust es i (·.growRight after.oldLength)
        moveDown old new steps (leaveOut es (i + 1)) i
      | _, _ => (es, i)
    | _, _ => (es, i)

/-- Moves all edits of a kind, from index `i` on. -/
def moveAll (old new : Array String) (kind : EditKind) :
    (steps : Nat) → Array Edit → Nat → Array Edit
  | 0, es, _ => es
  | steps + 1, es, i =>
    if i < es.size then
      if kindAt es i = some kind then
        let room := old.size + new.size + es.size + 1
        let (es, i) := moveUp old new room es i
        let (es, i) := moveDown old new room es i
        moveAll old new kind steps es (i + 1)
      else moveAll old new kind steps es (i + 1)
    else es

/-- Edits that have been read and may still be joined by the next one. -/
structure Joining where
  done : List Edit
  kept : Option Edit
  deleted : Option Edit
  inserted : Option Edit

def Joining.closeChange (j : Joining) : Joining :=
  match j.deleted, j.inserted with
  | some d, some i =>
    { j with
      done := ⟨.replace, d.old, d.oldLength, i.new, i.newLength⟩ :: j.done
      deleted := none
      inserted := none }
  | some d, none => { j with done := d :: j.done, deleted := none }
  | none, some i => { j with done := i :: j.done, inserted := none }
  | none, none => j

def Joining.closeKept (j : Joining) : Joining :=
  match j.kept with
  | some k => { j with done := k :: j.done, kept := none }
  | none => j

/-- The edit joined with an open one of its kind. -/
def joinedWith (e : Edit) : Option Edit → Edit
  | none => e
  | some first => first.growRight (max e.oldLength e.newLength)

/-- Reads one edit. -/
def Joining.step (j : Joining) (e : Edit) : Joining :=
  match e.kind with
  | .keep =>
    let j := j.closeChange
    { j with kept := some (joinedWith e j.kept) }
  | .delete =>
    let j := j.closeKept
    { j with deleted := some (joinedWith e j.deleted) }
  | .insert =>
    let j := j.closeKept
    { j with inserted := some (joinedWith e j.inserted) }
  | .replace =>
    let j := j.closeKept.closeChange
    { j with done := e :: j.done }

def joinEdits (es : List Edit) : List Edit :=
  (es.foldl Joining.step ⟨[], none, none, none⟩).closeChange.closeKept.done.reverse

/-- A compact edit script for two sequences. -/
def compactEdits (old new : Array String) : List Edit :=
  let es := (shortestEdits old new).toArray
  let steps := 2 * (old.size + new.size + es.size) + 2
  let es := moveAll old new .delete steps es 0
  let es := moveAll old new .insert steps es 0
  joinEdits es.toList

end ScriptSuite.Diff
