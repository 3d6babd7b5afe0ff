import ScriptSuite.Command.Basic

/-!
Commands on files and folders.
-/

namespace ScriptSuite.Files

open Handler

/-- `cd dir`: goes to a folder of the sandbox. -/
def cd (_ : Bool) : List String → Handler Unit
  | [dir] => do
    let s ← get
    let target := s.resolve dir
    if !target.isWithin s.workDir then
      failed ("cd " ++ dir ++ ": directory is outside the sandbox")
    else if !s.host.isFolder target then failed ("cd " ++ dir ++ ": not a directory")
    else modify fun s => s.enter target
  | _ => usage false "cd dir"

def octalDigit? (c : Char) : Option Nat :=
  if '0' ≤ c && c ≤ '7' then some (c.toNat - '0'.toNat) else none

/-- Appends octal digits to a value. -/
def octalFrom (value : Nat) : List Char → Option Nat
  | [] => some value
  | c :: cs => (octalDigit? c).bind fun d => octalFrom (value * 8 + d) cs

/-- The permission bits that octal digits write, after at most one plus sign. -/
def permissions? (text : String) : Option Nat :=
  let digits := (Text.dropLead? ['+'] text.toList).getD text.toList
  if digits.isEmpty then none
  else (octalFrom 0 digits).filter fun mode => mode ≤ 0o777

/-- `chmod perm paths...`: changes permission bits. -/
def chmod (_ : Bool) : List String → Handler Unit
  | perm :: path :: more =>
    match permissions? perm with
    | none => misused ("chmod: invalid mode " ++ Text.quoted perm)
    | some mode =>
      each (fun path => do
        let target ← resolve path
        tryHost hostFault fun h => h.setMode target mode) (path :: more)
  | _ => usage false "chmod perm paths..."

/-- Where `cp` puts a source: below the destination if that is a folder, under the last name of the
source. Nothing keeps a source from being its own target. -/
def copyTarget (source : String) (target : Path) (isFolder : Bool) : Path :=
  if isFolder then
    target.join
      (match (Path.mk source).fileName? with
      | some name => String.ofList name
      | none => source)
  else target

def copyOne (destination : String) (target : Path) (isFolder : Bool) (source : String) :
    Handler Unit := do
  let place := copyTarget source target isFolder
  if Session.isOutputName source then
    let text ← textOfFile source
    tryHost hostFault fun h => h.write place (Text.bytesOf text)
  else
    let path ← resolve source
    let fault (e : HostError) : Interrupt :=
      .error (.failed ("cp " ++ source ++ " " ++ destination ++ ": " ++ e.message))
    tryHost fault fun h => h.copy path place

/-- `cp src... dst`: copies files. -/
def cp (_ : Bool) (arguments : List String) : Handler Unit :=
  match arguments.getLast?, arguments.dropLast with
  | some destination, source :: more => do
    let target ← resolve destination
    let isFolder ← ofHost fun h => h.isFolder target
    if !more.isEmpty && !isFolder then
      failed ("cp: destination " ++ destination ++ " is not a directory")
    else each (copyOne destination target isFolder) (source :: more)
  | _, _ => usage false "cp src... dst"

/-- The flag of `exists` that asks for files that cannot be written. -/
def readOnlyFlag : String := "-readonly"

/-- Whether permission bits let nobody write. -/
def isReadOnly (mode : Nat) : Bool :=
  mode &&& 0o222 = 0

/-- Whether a file is there, and cannot be written if `readOnly`. -/
def requireFile (readOnly : Bool) (name : String) : Handler Unit := do
  let path ← resolve name
  match ← ofHost fun h => h.node path with
  | .error _ => failed (name ++ " does not exist")
  | .ok node =>
    if readOnly && !isReadOnly node.mode then failed (name ++ " exists but is writable")
    else pure ()

/-- `exists [-readonly] file...`: all files are there. Negated, it fails unless one of them is, so
that it is no longer the opposite of the plain command when there are several. -/
def «exists» (negated : Bool) (arguments : List String) : Handler Unit := do
  let readOnly := arguments.head? == some readOnlyFlag
  let names := if readOnly then arguments.tail else arguments
  usage (!names.isEmpty) "exists [-readonly] file..."
  if negated then
    let s ← get
    match names.find? fun name => s.host.doesExist (s.resolve name) with
    | some found => log (found ++ " exists")
    | none => failed "no files exist"
  else each (requireFile readOnly) names

/-- `mkdir dir...`: makes folders, and those that are missing above them. -/
def mkdir (_ : Bool) (arguments : List String) : Handler Unit := do
  usage (!arguments.isEmpty) "mkdir dir..."
  each (fun dir => do
    let path ← resolve dir
    tryHost hostFault fun h => h.makeFolders path) arguments

/-- `mv old new`: moves a file or folder. -/
def mv (_ : Bool) : List String → Handler Unit
  | [old, new] => do
    let source ← resolve old
    let target ← resolve new
    let fault (e : HostError) : Interrupt :=
      .error (.failed ("mv " ++ old ++ " " ++ new ++ ": " ++ e.message))
    tryHost fault fun h => h.move source target
  | _ => usage false "mv old new"

/-- Removes what a name denotes. It need not be there, so that a script may clean up what it has not
made. -/
def removeOne (name : String) : Handler Unit := do
  let path ← resolve name
  match ← onHost fun h => h.removeAll path with
  | .ok () => pure ()
  | .error (.refused .noEntry) => pure ()
  | .error e => failed ("rm " ++ name ++ ": " ++ e.message)

/-- `rm file...`: removes files and folders. -/
def rm (_ : Bool) (arguments : List String) : Handler Unit := do
  usage (!arguments.isEmpty) "rm file..."
  each removeOne arguments

/-- The mark in front of a quoted line. -/
def quoteMark : Char := '>'

/-- Takes the mark from each line. Fails with the number of the first line without one; of the lines
before it nothing is kept. -/
def unquoteLines (number : Nat) : List (List Char) → Except Nat (List Char)
  | [] => .ok []
  | line :: rest =>
    match line with
    | c :: cs =>
      if c = quoteMark then (unquoteLines (number + 1) rest).map (cs ++ ·)
      else .error number
    | [] => .error number

/-- Takes the marks from the lines of a file. The file is read leniently and written as the text
that has been read, and only if all lines have a mark. -/
def unquoteOne (name : String) : Handler Unit := do
  let text ← textOfFile name
  match unquoteLines 1 (Text.splitLines text.toList) with
  | .error number =>
    failed (name ++ ":" ++ toString number ++ ": line not quoted with '>'")
  | .ok cs =>
    let path ← resolve name
    tryHost hostFault fun h => h.write path (Text.encode cs)

/-- `unquote file...`: takes a mark from the front of each line. -/
def unquote (_ : Bool) (arguments : List String) : Handler Unit := do
  usage (!arguments.isEmpty) "unquote file..."
  each unquoteOne arguments

end ScriptSuite.Files
