import ScriptSuite.Path.Name
import ScriptSuite.Text.Blank

/-!
Paths.

A path is a text; what it denotes is read off its components. Empty segments and single
dots do not count, but for a dot that a relative path starts with. The names among the components
of a path are texts.
-/

namespace ScriptSuite

/-- A path as it is written. Different texts may denote the same place; `components` is what they
have in common then. -/
structure Path where
  text : String
  deriving DecidableEq, Repr, Inhabited

inductive Component where
  | root
  | here
  | up
  | name (entry : EntryName)
  deriving DecidableEq, Repr

/-- What is shown of a step. -/
def Component.text : Component → List Char
  | .root => ['/']
  | .here => ['.']
  | .up => ['.', '.']
  | .name entry => entry.shown

namespace Path

def chars (p : Path) : List Char :=
  p.text.toList

def isAbsolute (p : Path) : Bool :=
  p.chars.head? == some '/'

/-- The step that a segment stands for, if any. -/
def segment? (segment : List Char) : Option Component :=
  if segment.isEmpty || segment == ['.'] then none
  else if segment == ['.', '.'] then some .up
  else some (.name segment)

def componentsOf (cs : List Char) : List Component :=
  let segments := Text.splitAtEach '/' cs
  let lead :=
    if cs.head? == some '/' then [Component.root]
    else if segments.head? == some ['.'] then [Component.here]
    else []
  lead ++ segments.filterMap segment?

/-- The steps of a path, in order. Double slashes, a slash at the end and dots within leave nothing
in them. -/
def components (p : Path) : List Component :=
  componentsOf p.chars

def joinChars (p other : List Char) : List Char :=
  if other.head? == some '/' then other
  else if p.isEmpty || p.getLast? == some '/' then p ++ other
  else p ++ '/' :: other

/-- The path that `other` denotes as seen from `p`: `other` itself if it is absolute. -/
def join (p : Path) (other : String) : Path :=
  ⟨String.ofList (joinChars p.chars other.toList)⟩

/-- The text of some steps. -/
def textOf (cs : List Component) : List Char :=
  cs.foldl (fun acc c => joinChars acc c.text) []

def ofComponents (cs : List Component) : Path :=
  ⟨String.ofList (textOf cs)⟩

/-- One step of `clean`: a step up takes back the step before it, but never the root. -/
def cleanStep (acc : List Component) : Component → List Component
  | .here => acc
  | .up =>
    match acc with
    | [] => []
    | .root :: _ => acc
    | _ :: rest => rest
  | .root => [.root]
  | .name entry => .name entry :: acc

/-- The steps without steps up. -/
def cleanComponents (cs : List Component) : List Component :=
  (cs.foldl cleanStep []).reverse

/-- The path without steps up and without anything that does not count. Steps up are taken back in
the text, as if nothing on the way were a link. -/
def clean (p : Path) : Path :=
  ofComponents (cleanComponents p.components)

/-- What follows the steps `lead` in `cs`, if `cs` starts with them. -/
def dropComponents? : (lead cs : List Component) → Option (List Component)
  | [], cs => some cs
  | _ :: _, [] => none
  | a :: lead, c :: cs => if a = c then dropComponents? lead cs else none

/-- The steps of `p` below `base`, if `p` is `base` or lies below it. -/
def below? (p base : Path) : Option (List Component) :=
  dropComponents? base.components p.components

/-- Whether `p` is `base` or lies below it, as far as the text goes: steps up in either of them are
compared and not carried out. -/
def isWithin (p base : Path) : Bool :=
  (p.below? base).isSome

/-- The last step, if it is a name. -/
def fileName? (p : Path) : Option (List Char) :=
  match p.components.getLast? with
  | some (.name (.text cs)) => some cs
  | _ => none

/-- The text of what stands after the last dot of the last name. -/
def extension? (p : Path) : Option (List Char) :=
  p.fileName?.bind fun name => EntryName.extension? name

/-- The text up to the end of the last segment that counts. -/
def trimSegments : List (List Char) → List (List Char)
  | [] => []
  | s :: rest =>
    match trimSegments rest with
    | [] => if (segment? s).isSome then [s] else []
    | kept => s :: kept

/-- The path without its last step; the root and the empty path have none. Of a name alone it is the
empty path, which denotes nothing. -/
def parent? (p : Path) : Option Path :=
  match p.components with
  | [] => none
  | [.root] => none
  | [.root, _] => some ⟨"/"⟩
  | [_] => some ⟨""⟩
  | _ =>
    let segments := Text.splitAtEach '/' p.chars
    let kept := trimSegments (trimSegments segments).dropLast
    -- the dot that a relative path starts with counts
    let kept := if kept.isEmpty then segments.take 1 else kept
    some ⟨String.ofList (Text.joinWith ['/'] kept)⟩

/-- The directories of a list as the variable PATH writes it. -/
def splitSearchList (s : String) : List Path :=
  (Text.splitAtEach ':' s.toList).map fun cs => ⟨String.ofList cs⟩

end Path
end ScriptSuite
