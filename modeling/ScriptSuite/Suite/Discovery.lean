import ScriptSuite.Host.Files
import ScriptSuite.Script.Parser
import ScriptSuite.Suite.Error

/-!
Finding and loading scripts.

The scripts of a folder are the files below it with one of two extensions, but for those
in a hidden folder. They are listed in the order of their locations.
-/

namespace ScriptSuite.Suite

/-- The extensions of scripts. -/
def extensions : List (List Char) := [['t', 'x', 't'], ['t', 'x', 't', 'a', 'r']]

/-- Whether the file at a location has the extension of a script. -/
def isScript (l : Location) : Bool :=
  match l.extension? with
  | some ext => extensions.contains ext
  | none => false

/-- Whether the name of a folder is that of a hidden one. The text of the name is asked for, so
that a folder whose name has none counts as not hidden, with a dot in front or not. -/
def isHidden (name : EntryName) : Bool :=
  match name.text? with
  | some cs => cs.head? == some '.'
  | none => false

/-- The scripts in a listing of the folder `at_`, in the order of the listing. A folder is searched
unless it is hidden, also if it is named as a script; of files none is passed over for a dot in
front. -/
def scriptsIn (at_ : Location) : Listing → List Location
  | .empty => []
  | .file name _ rest =>
    let file := at_.child name
    (if isScript file then [file] else []) ++ scriptsIn at_ rest
  | .folder name _ inside rest =>
    (if isHidden name then [] else scriptsIn (at_.child name) inside) ++ scriptsIn at_ rest

/-- The scripts that a path denotes: itself if it is a file, otherwise those below it,
sorted. -/
def findScripts (h : Host) (p : Path) : Except HostError (List Location) :=
  match h.node p with
  | .error e => .error e
  | .ok (.folder _ inside) => .ok ((scriptsIn p inside).mergeSort Location.le)
  | .ok (.file content) => if content.isDevice then .error (.refused .notFolder) else .ok [p]

/-- Loads a script. The file has to be a text, and it is not asked what it is called. -/
def loadScript (h : Host) (l : Location) : Except LoadError Script :=
  match h.readText l with
  | .error e => .error (.host l e)
  | .ok text =>
    match Script.parse text with
    | .error e => .error (.script l e)
    | .ok s => .ok s

end ScriptSuite.Suite
