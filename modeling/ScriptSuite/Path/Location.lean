import ScriptSuite.Path.Basic

/-!
Where files are found.

Whoever reads folders below a path meets names that are no texts, and what lies below such a name
has no path that could be written down. A location is a path, or leads on from a path by a name
that is no text. The order of locations is that of their steps, and names come in the order of
their bytes.
-/

namespace ScriptSuite

/-- The way to a file or folder. Every path is one. -/
inductive Location where
  | text (path : Path)
  /-- By a first name that is no text, and then by others, of which some may be texts again. -/
  | below (path : Path) (name : RawName) (rest : List EntryName)
  deriving DecidableEq, Repr

instance : Coe Path Location := ⟨.text⟩

namespace Location

def components : Location → List Component
  | .text p => p.components
  | .below p name rest => p.components ++ (.raw name :: rest).map .name

/-- The location of an entry of the folder at a location. -/
def child : Location → EntryName → Location
  | .text p, .text cs => .text (p.join (String.ofList cs))
  | .text p, .raw name => .below p name []
  | .below p name rest, entry => .below p name (rest ++ [entry])

def slashByte : UInt8 := 0x2F

/-- The bytes of a path that leads on by a name. -/
def joinBytes (bs : Bytes) (name : EntryName) : Bytes :=
  if bs.isEmpty || bs.getLast? == some slashByte then bs ++ name.bytes
  else bs ++ slashByte :: name.bytes

def bytes : Location → Bytes
  | .text p => Text.encode p.chars
  | .below p name rest => (.raw name :: rest).foldl joinBytes (Text.encode p.chars)

def text? : Location → Option String
  | .text p => some p.text
  | .below .. => none

/-- What is shown of a location in messages and reports. -/
def shown : Location → String
  | .text p => p.text
  | .below p name rest => Text.stringOf (below p name rest).bytes

/-- The last step, if it is a name. -/
def fileName? (l : Location) : Option EntryName :=
  match l.components.getLast? with
  | some (.name name) => some name
  | _ => none

def extension? (l : Location) : Option (List Char) :=
  l.fileName?.bind EntryName.extension?

/-- The name of a script in reports: its steps below `root`, without the extension. -/
def scriptName (l : Location) (root : Path) : String :=
  let steps := (Path.dropComponents? root.components l.components).getD l.components
  let named : List Component :=
    match steps.getLast? with
    | some (.name name) =>
      let last : Option Component :=
        match name.stem with
        | .text ['.'] => if steps.length = 1 then some .here else none
        | .text cs => Path.segment? cs
        | stem => some (.name stem)
      steps.dropLast ++ last.toList
    | _ => steps
  let text := Text.joinWith ['/'] (named.map Component.text)
  String.ofList
    (if text.isEmpty then (l.fileName?.map fun name => name.stem.shown).getD [] else text)

/-! ### The order of locations -/

/-- What a step is ordered by: the root comes first, then a dot, two dots, and names, which are
ordered by their bytes. -/
def key : Component → Bytes
  | .root => [0]
  | .here => [1]
  | .up => [2]
  | .name entry => 3 :: entry.bytes

/-- Whether a location comes first: by the first step that differs, and the shorter one if there is
none. -/
def le (l m : Location) : Bool :=
  decide (l.components.map key ≤ m.components.map key)

end Location
end ScriptSuite
