import ScriptSuite.Path.Name

/-!
Trees of files.

A folder lists its entries in some order. A place in a tree is the list of names that
lead to it from the root. Within a folder, putting or removing an entry changes that
entry alone: `child?_put` and `child?_remove` say so.
-/

namespace ScriptSuite

/-- A place in a tree: the names that lead to it. -/
abbrev Place := List EntryName

/-- A file and its permission bits. The null device reads as empty and keeps nothing. -/
structure File where
  data : Bytes
  mode : Nat
  isDevice : Bool
  deriving DecidableEq, Repr

/-- The entries of a folder. -/
inductive Listing where
  | empty
  | file (name : EntryName) (content : File) (rest : Listing)
  | folder (name : EntryName) (mode : Nat) (inside : Listing) (rest : Listing)
  deriving DecidableEq, Repr

/-- A file or a folder. There are no links, so that every place has one way to it. -/
inductive Node where
  | file (content : File)
  | folder (mode : Nat) (inside : Listing)
  deriving DecidableEq, Repr

namespace Listing

def child? (name : EntryName) : Listing → Option Node
  | .empty => none
  | .file n content rest => if n = name then some (.file content) else child? name rest
  | .folder n mode inside rest =>
    if n = name then some (.folder mode inside) else child? name rest

def entries : Listing → List (EntryName × Node)
  | .empty => []
  | .file n content rest => (n, .file content) :: rest.entries
  | .folder n mode inside rest => (n, .folder mode inside) :: rest.entries

/-- A listing with one more entry in front. -/
def consEntry (name : EntryName) (node : Node) (rest : Listing) : Listing :=
  match node with
  | .file content => .file name content rest
  | .folder mode inside => .folder name mode inside rest

/-- The listing with another entry of that name, in its place or at the end. -/
def put (name : EntryName) (node : Node) : Listing → Listing
  | .empty => consEntry name node .empty
  | .file n content rest =>
    if n = name then consEntry name node rest else .file n content (rest.put name node)
  | .folder n mode inside rest =>
    if n = name then consEntry name node rest else .folder n mode inside (rest.put name node)

/-- The listing without the entry of that name. -/
def remove (name : EntryName) : Listing → Listing
  | .empty => .empty
  | .file n content rest =>
    if n = name then rest.remove name else .file n content (rest.remove name)
  | .folder n mode inside rest =>
    if n = name then rest.remove name else .folder n mode inside (rest.remove name)

def isEmpty : Listing → Bool
  | .empty => true
  | _ => false

theorem child?_consEntry (name other : EntryName) (node : Node) (rest : Listing) :
    (consEntry name node rest).child? other
      = if name = other then some node else rest.child? other := by
  cases node <;> rfl

theorem child?_put (name other : EntryName) (node : Node) (l : Listing) :
    (l.put name node).child? other = if name = other then some node else l.child? other := by
  induction l with
  | empty => simp [put, child?_consEntry, child?]
  | file n content rest ih =>
    by_cases h : n = name
    · subst h
      by_cases ho : n = other <;> simp [put, child?_consEntry, child?, ho]
    · by_cases ho : name = other
      · subst ho
        simpa [put, h, child?] using ih
      · by_cases hn : n = other <;> simp_all [put, child?]
  | folder n mode inside rest _ ih =>
    by_cases h : n = name
    · subst h
      by_cases ho : n = other <;> simp [put, child?_consEntry, child?, ho]
    · by_cases ho : name = other
      · subst ho
        simpa [put, h, child?] using ih
      · by_cases hn : n = other <;> simp_all [put, child?]

theorem child?_remove (name other : EntryName) (l : Listing) :
    (l.remove name).child? other = if name = other then none else l.child? other := by
  induction l with
  | empty => simp [remove, child?]
  | file n content rest ih =>
    by_cases h : n = name
    · subst h
      by_cases ho : n = other <;> simp_all [remove, child?]
    · by_cases ho : n = other
      · subst ho
        simp [remove, child?, h, Ne.symm h]
      · simpa [remove, child?, h, ho] using ih
  | folder n mode inside rest _ ih =>
    by_cases h : n = name
    · subst h
      by_cases ho : n = other <;> simp_all [remove, child?]
    · by_cases ho : n = other
      · subst ho
        simp [remove, child?, h, Ne.symm h]
      · simpa [remove, child?, h, ho] using ih

end Listing

namespace Node

def isFolder : Node → Bool
  | .folder .. => true
  | .file _ => false

/-- Whether it is a file that keeps data. -/
def isRegular : Node → Bool
  | .file content => !content.isDevice
  | .folder .. => false

def mode : Node → Nat
  | .file content => content.mode
  | .folder mode _ => mode

def withMode (mode : Nat) : Node → Node
  | .file content => .file { content with mode := mode }
  | .folder _ inside => .folder mode inside

/-- What stands at a place. -/
def find? : Node → Place → Option Node
  | node, [] => some node
  | .file _, _ :: _ => none
  | .folder _ inside, name :: rest =>
    match inside.child? name with
    | some child => child.find? rest
    | none => none

/-- The tree with something else at a place. Nothing changes if the place is not in a
folder of the tree. -/
def put : (root new : Node) → Place → Node
  | _, new, [] => new
  | .file content, _, _ :: _ => .file content
  | .folder mode inside, new, name :: rest =>
    match inside.child? name with
    | some child => .folder mode (inside.put name (child.put new rest))
    | none => if rest.isEmpty then .folder mode (inside.put name new) else .folder mode inside

/-- The tree without what stands at a place; the root stays. -/
def remove : Node → Place → Node
  | node, [] => node
  | .file content, _ :: _ => .file content
  | .folder mode inside, [name] => .folder mode (inside.remove name)
  | .folder mode inside, name :: rest =>
    match inside.child? name with
    | some child => .folder mode (inside.put name (child.remove rest))
    | none => .folder mode inside

def newFolder : Node := .folder 0o755 .empty

end Node
end ScriptSuite
