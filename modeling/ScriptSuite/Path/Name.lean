import ScriptSuite.Text.Utf8

/-!
Names of files and folders.

To a host a name is a string of bytes. The names that paths write are texts, but nothing keeps a
name from being bytes that are no UTF-8. Such a name is met when a folder is read. It can be
followed and compared like any other, and it is shown with marks for what cannot be read, but
whoever asks for its text is given none.
-/

namespace ScriptSuite

/-- A name that is no text. -/
structure RawName where
  bytes : Bytes
  notText : Text.decode? bytes = none
  deriving Repr

instance : DecidableEq RawName
  | ⟨bytes, _⟩, ⟨other, _⟩ =>
    decidable_of_iff (bytes = other) ⟨fun same => by subst same; rfl, congrArg RawName.bytes⟩

/-- The name of an entry of a folder. Names are different if their bytes are, which is so because
a name that is a text is never written as a raw one. -/
inductive EntryName where
  | text (cs : List Char)
  | raw (name : RawName)
  deriving Repr

instance : DecidableEq EntryName
  | .text cs, .text ds => decidable_of_iff (cs = ds) ⟨congrArg EntryName.text, EntryName.text.inj⟩
  | .raw name, .raw other =>
    decidable_of_iff (name = other) ⟨congrArg EntryName.raw, EntryName.raw.inj⟩
  | .text _, .raw _ => isFalse nofun
  | .raw _, .text _ => isFalse nofun

instance : Coe (List Char) EntryName := ⟨.text⟩

namespace EntryName

def bytes : EntryName → Bytes
  | .text cs => Text.encode cs
  | .raw name => name.bytes

def ofBytes (bs : Bytes) : EntryName :=
  match readable : Text.decode? bs with
  | some cs => .text cs
  | none => .raw ⟨bs, readable⟩

/-- The text of a name, for those who ask whether it is one. -/
def text? : EntryName → Option (List Char)
  | .text cs => some cs
  | .raw _ => none

/-- The characters that a name is shown with. Different raw names may be shown alike. -/
def shown : EntryName → List Char
  | .text cs => cs
  | .raw name => Text.decodeLossy name.bytes

def dotByte : UInt8 := 0x2E

/-- The parts of a name before and after its last dot, if it has one that does not stand in
front. -/
def splitAtDot? (bs : Bytes) : Option (Bytes × Bytes) :=
  let (after, rest) := bs.reverse.span (· != dotByte)
  match rest with
  | _ :: before => if before.isEmpty then none else some (before.reverse, after.reverse)
  | [] => none

/-- What stands before the extension; the whole name if it has none. -/
def stem (name : EntryName) : EntryName :=
  match splitAtDot? name.bytes with
  | some (before, _) => ofBytes before
  | none => name

/-- The text of the extension. A raw name may well have one, as it is the extension alone that
has to be a text here. -/
def extension? (name : EntryName) : Option (List Char) :=
  (splitAtDot? name.bytes).bind fun parts => Text.decode? parts.2

end EntryName
end ScriptSuite
