import ScriptSuite.Host.Basic

/-!
Files of the host.

A path is followed step by step, and every step has to start in a folder; a step up
needs the folder that it leaves. What may be missing at the end of a path depends on
what is done with it.
-/

namespace ScriptSuite

namespace Node

/-- Follows steps from a place. Every step has to start in a folder, also one that leads up again,
so that a path through something that is missing leads nowhere. -/
def follow (root : Node) : Place → List Component → Except Refusal Place
  | place, [] => .ok place
  | place, step :: rest =>
    match root.find? place with
    | none => .error .noEntry
    | some (.file _) => .error .notFolder
    | some (.folder ..) =>
      match step with
      | .root => follow root [] rest
      | .here => follow root place rest
      | .up => follow root place.dropLast rest
      | .name name => follow root (place ++ [name]) rest

end Node

namespace Path

/-- The longest name of an entry in bytes. -/
def nameLimit : Nat := 255

/-- The longest path in bytes. -/
def textLimit : Nat := 4095

/-- Whether a path can only denote a folder. -/
def wantsFolder (p : Path) : Bool :=
  match (Text.splitAtEach '/' p.chars).getLast? with
  | some last => last.isEmpty || last == ['.']
  | none => false

def byteLength (cs : List Char) : Nat :=
  (Text.encode cs).length

/-- Whether a path or one of its names is too long. -/
def isTooLong (p : Path) : Bool :=
  textLimit < byteLength p.chars
    || (Text.splitAtEach '/' p.chars).any fun segment => nameLimit < byteLength segment

/-- The path without slashes at its end. -/
def withoutSlashes (p : Path) : Path :=
  ⟨String.ofList ((p.chars.reverse.dropWhile (· == '/')).reverse)⟩

end Path

/-! What holds of paths as arguments of the host holds of locations. Where a location has left the
path, nothing but names follows, so that there are no slashes at its end. -/

namespace Location

def hasNull : Location → Bool
  | .text p => p.chars.any fun c => c.toNat = 0
  | .below p name rest => (below p name rest).bytes.contains 0

def isEmpty : Location → Bool
  | .text p => p.text.isEmpty
  | .below .. => false

def isTooLong : Location → Bool
  | .text p => p.isTooLong
  | .below p name rest =>
    Path.textLimit < (below p name rest).bytes.length || p.isTooLong
      || (.raw name :: rest).any fun (name : EntryName) => Path.nameLimit < name.bytes.length

def wantsFolder : Location → Bool
  | .text p => p.wantsFolder
  | .below .. => false

def withoutSlashes : Location → Location
  | .text p => .text p.withoutSlashes
  | .below p name rest => .below p name rest

end Location

namespace Node

/-- The place that a location leads to from a folder; nothing need stand there. -/
def placeFrom (root : Node) (folder : Place) (l : Location) : Except HostError Place :=
  if l.hasNull then .error .nullInPath
  else if l.isEmpty then .error (.refused .noEntry)
  else if l.isTooLong then .error (.refused .nameTooLong)
  else
    match root.follow folder l.components with
    | .error r => .error (.refused r)
    | .ok place =>
      match root.find? place with
      | some (.file _) => if l.wantsFolder then .error (.refused .notFolder) else .ok place
      | _ => .ok place

/-- What stands where a location leads to from a folder. -/
def nodeFrom (root : Node) (folder : Place) (l : Location) : Except HostError Node :=
  match root.placeFrom folder l with
  | .error e => .error e
  | .ok place =>
    match root.find? place with
    | some node => .ok node
    | none => .error (.refused .noEntry)

/-- The permission bits of new files. -/
def fileMode : Nat := 0o644

/-- The tree with other data in the file at a place, which is made if it is missing. The permission
bits of a file that is there stay, and the null device takes data without keeping it. -/
def storeAt (root : Node) (place : Place) (data : Bytes) : Except Refusal Node :=
  match root.find? place with
  | some (.folder ..) => .error .isFolder
  | some (.file content) =>
    .ok (if content.isDevice then root else root.put (.file { content with data := data }) place)
  | none =>
    match root.find? place.dropLast with
    | none => .error .noEntry
    | some (.file _) => .error .notFolder
    | some (.folder ..) => .ok (root.put (.file ⟨data, fileMode, false⟩) place)

/-- The tree with other data in the file at a location. A path that ends with a slash is refused
as one of a folder. -/
def storeFrom (root : Node) (folder : Place) (l : Location) (data : Bytes) :
    Except HostError Node :=
  let bare := l.withoutSlashes
  if bare.wantsFolder then
    match root.nodeFrom folder l with
    | .error e => .error e
    | .ok _ => .error (.refused .isFolder)
  else
    match root.placeFrom folder bare with
    | .error e => .error e
    | .ok place =>
      if l.wantsFolder then .error (.refused .isFolder)
      else
        match root.storeAt place data with
        | .error r => .error (.refused r)
        | .ok root => .ok root

/-- Makes the folder at a place, in a folder that is there. -/
def makeFolderAt (root : Node) (place : Place) : Except Refusal Node :=
  match root.find? place with
  | some _ => .error .alreadyThere
  | none =>
    match root.find? place.dropLast with
    | none => .error .noEntry
    | some (.file _) => .error .notFolder
    | some (.folder ..) => .ok (root.put .newFolder place)

/-- Makes the folders that steps lead to, one after another. A file in the way is refused,
as no folder if there are further steps. -/
def makeFoldersFrom (root : Node) : Place → List Component → Except Refusal Node
  | _, [] => .ok root
  | place, step :: rest =>
    let next :=
      match step with
      | .root => []
      | .here => place
      | .up => place.dropLast
      | .name name => place ++ [name]
    match root.find? next with
    | some (.folder ..) => makeFoldersFrom root next rest
    | some (.file _) => .error (if rest.isEmpty then .alreadyThere else .notFolder)
    | none =>
      match makeFolderAt root next with
      | .ok root => makeFoldersFrom root next rest
      | .error r => .error r

/-- Whether two places are on different devices: those below `dev` are on one of their
own. -/
def onOtherDevice (a b : Place) : Bool :=
  let device (place : Place) := place.head? == some (.text ['d', 'e', 'v'])
  device a != device b

/-- The tree with what stands at one place moved to another. -/
def moveAt (root : Node) (source target : Place) : Except Refusal Node :=
  match root.find? source.dropLast, root.find? target.dropLast with
  | none, _ => .error .noEntry
  | some (.file _), _ => .error .notFolder
  | _, none => .error .noEntry
  | _, some (.file _) => .error .notFolder
  | some (.folder ..), some (.folder ..) =>
    if onOtherDevice source target then .error .otherDevice
    else if source.isEmpty || target.isEmpty then .error .busy
    else
      match root.find? source with
      | none => .error .noEntry
      | some moved =>
        if source = target then .ok root
        else if source.isPrefixOf target then .error .invalid
        else if target.isPrefixOf source then .error .notEmpty
        else
          let result := (root.remove source).put moved target
          match root.find? target, moved.isFolder with
          | none, _ => .ok result
          | some (.file _), true => .error .notFolder
          | some (.file _), false => .ok result
          | some (.folder ..), false => .error .isFolder
          | some (.folder _ inside), true =>
            if inside.isEmpty then .ok result else .error .notEmpty

end Node

namespace Host

/-- The place that a location leads to. -/
def place (h : Host) (l : Location) : Except HostError Place :=
  h.files.placeFrom h.folder l

def node (h : Host) (l : Location) : Except HostError Node :=
  h.files.nodeFrom h.folder l

/-- Whether a path denotes something. -/
def doesExist (h : Host) (p : Path) : Bool :=
  (h.node p).isOk

def isFolder (h : Host) (p : Path) : Bool :=
  match h.node p with
  | .ok node => node.isFolder
  | .error _ => false

/-- Whether a path denotes a file that keeps data. -/
def isFile (h : Host) (p : Path) : Bool :=
  match h.node p with
  | .ok node => node.isRegular
  | .error _ => false

/-- The content of a file, which may be any bytes. -/
def read (h : Host) (l : Location) : Except HostError Bytes :=
  match h.node l with
  | .error e => .error e
  | .ok (.file content) => .ok content.data
  | .ok (.folder ..) => .error (.refused .isFolder)

def readText (h : Host) (l : Location) : Except HostError String :=
  match h.read l with
  | .error e => .error e
  | .ok data =>
    match Text.decode? data with
    | some cs => .ok (String.ofList cs)
    | none => .error .invalidText

/-- The host with other files, or the reason against it. -/
def updated (h : Host) : Except Refusal Node → Except HostError Unit × Host
  | .ok files => (.ok (), { h with files := files })
  | .error r => (.error (.refused r), h)

def write (h : Host) (l : Location) (data : Bytes) : Except HostError Unit × Host :=
  match h.files.storeFrom h.folder l data with
  | .error e => (.error e, h)
  | .ok files => (.ok (), { h with files := files })

/-- Makes a folder and all that are missing above it. Those that are there already are left alone,
whatever they hold. -/
def makeFolders (h : Host) (p : Path) : Except HostError Unit × Host :=
  if p.chars.any fun c => c.toNat = 0 then (.error .nullInPath, h)
  else if p.isTooLong then (.error (.refused .nameTooLong), h)
  else h.updated (h.files.makeFoldersFrom h.folder p.components)

/-- Copies a file, with its permission bits. The target is emptied before the source is
read. -/
def copy (h : Host) (source target : Path) : Except HostError Unit × Host :=
  match h.node source, h.place source with
  | .error e, _ => (.error e, h)
  | _, .error e => (.error e, h)
  | .ok node, .ok from_ =>
    if !node.isRegular then (.error .notAFile, h)
    else
      match h.write target [] with
      | (.error e, h) => (.error e, h)
      | (.ok (), h) =>
        match h.place target, h.files.find? from_ with
        | .ok there, some (.file content) =>
          match h.files.find? there with
          | some (.file old) =>
            if old.isDevice then (.ok (), h)
            else
              let copy := Node.file ⟨content.data, node.mode, false⟩
              (.ok (), { h with files := h.files.put copy there })
          | _ => (.ok (), h)
        | .error e, _ => (.error e, h)
        | _, _ => (.ok (), h)

def move (h : Host) (source target : Path) : Except HostError Unit × Host :=
  match h.place source with
  | .error e => (.error e, h)
  | .ok from_ =>
    match h.place target with
    | .error e => (.error e, h)
    | .ok there => h.updated (h.files.moveAt from_ there)

/-- Removes what a path denotes, a folder with all that it holds. -/
def removeAll (h : Host) (p : Path) : Except HostError Unit × Host :=
  match h.place p with
  | .error e => (.error e, h)
  | .ok place =>
    match h.files.find? place with
    | none => (.error (.refused .noEntry), h)
    | some _ =>
      if place.isEmpty then (.error (.refused .busy), h)
      else (.ok (), { h with files := h.files.remove place })

def setMode (h : Host) (p : Path) (mode : Nat) : Except HostError Unit × Host :=
  match h.node p, h.place p with
  | .error e, _ => (.error e, h)
  | _, .error e => (.error e, h)
  | .ok node, .ok place => (.ok (), { h with files := h.files.put (node.withMode mode) place })

def nameLetters : List Char :=
  "abcdefghijklmnopqrstuvwxyz".toList

/-- The made-up name of a number, six letters long. -/
def madeUpName (n : Nat) : List Char :=
  (List.range 6).map fun i => nameLetters.getD (n / Nat.pow 26 (5 - i) % 26) 'a'

/-- What the names of sandboxes start with. -/
def sandboxLead : String := "scriptest-"

/-- An absolute path for a path that is relative to the folder of the host. -/
def absolute (h : Host) (p : Path) : Path :=
  if p.isAbsolute then p
  else
    (Path.mk (String.ofList ('/' :: Text.joinWith ['/'] h.home))).join p.text

/-- Makes a folder with a made-up name in a folder. Every name is made up once, and a folder that is
there already is refused, so that no two sandboxes are the same. -/
def makeSandbox (h : Host) (parent : Path) : Except HostError Path × Host :=
  let path :=
    (h.absolute parent).join (sandboxLead ++ String.ofList (madeUpName h.names))
  let failed (e : HostError) : HostError :=
    .other (e.message ++ " at path " ++ Text.quoted path.text)
  match h.place path with
  | .error e => (.error (failed e), h)
  | .ok place =>
    match h.files.makeFolderAt place with
    | .error r => (.error (failed (.refused r)), h)
    | .ok files =>
      let files := files.put (.folder 0o700 .empty) place
      (.ok path, { h with files := files, names := h.names + 1 })

/-- Removes a sandbox with all that it holds. What goes wrong with that is told to nobody; the
journal says what has been removed. -/
def removeSandbox (h : Host) (p : Path) : Host :=
  match h.place p with
  | .error _ => h
  | .ok place => ({ h with files := h.files.remove place }).record (.removed place)

end Host
end ScriptSuite
