import ScriptSuite.Host.Files

/-!
Finding the program that a command line amounts to.

A file is run if it is a native program, or a script that names its interpreter. A name
without a slash is searched along a list of folders, and is then also run by the shell
if it is neither.
-/

namespace ScriptSuite.Node

/-- Where programs are searched if the variable PATH is not set. -/
def defaultSearchList : String := "/bin:/usr/bin"

/-- What the image of a native program starts with. -/
def nativeMark : Bytes := [0x7f, 0x45, 0x4c, 0x46]

/-- What a script that names its interpreter starts with. -/
def interpreterMark : List Char := ['#', '!']

/-- The interpreter of a script and the argument for it, if its first line names one. All that
follows the name is one argument, whatever blanks it has. -/
def interpreter? (image : Bytes) : Option (String × List String) :=
  match Text.dropLead? interpreterMark (Text.decodeLossy (image.takeWhile (· != 10))) with
  | none => none
  | some line =>
    let isGap (c : Char) : Bool := c = ' ' || c = '\t'
    let line := line.dropWhile isGap
    let (name, rest) := line.span fun c => !isGap c
    let argument := ((rest.dropWhile isGap).reverse.dropWhile isGap).reverse
    if name.isEmpty then none
    else
      some (String.ofList name,
        if argument.isEmpty then [] else [String.ofList argument])

/-- The content of the file at a path that may be run. For a file the bits of any user will do. -/
def imageAt (root : Node) (folder : Place) (path : String) : Except Refusal Bytes :=
  match root.placeFrom folder (Path.mk path) with
  | .error (.refused r) => .error r
  | .error _ => .error .noEntry
  | .ok place =>
    match root.find? place with
    | none => .error .noEntry
    | some (.folder ..) => .error .noPermission
    | some (.file content) =>
      if content.isDevice || content.mode &&& 0o111 = 0 then .error .noPermission
      else .ok content.data

/-- The shell that runs scripts without an interpreter. -/
def shellPath : String := "/bin/sh"

/-- The image and the arguments that running a file amounts to. A script is run by its
interpreter, or by the shell if `useShell` and it names none. -/
def resolveImage (root : Node) (folder : Place) (path : String) (arguments : List String)
    (useShell : Bool) : Except Refusal (Bytes × List String) :=
  match root.imageAt folder path with
  | .error r => .error r
  | .ok image =>
    if nativeMark.isPrefixOf image then .ok (image, arguments)
    else
      let throughShell : Except Refusal (Bytes × List String) :=
        if useShell then
          match root.imageAt folder shellPath with
          | .error r => .error r
          | .ok shell => .ok (shell, shellPath :: path :: arguments.tail)
        else .error .badFormat
      match interpreter? image with
      | none => throughShell
      | some (name, extra) =>
        match root.imageAt folder name with
        | .error r => .error r
        | .ok program => .ok (program, name :: extra ++ path :: arguments.tail)

/-- Tries the folders of a search list in turn. A file that may not be run is passed over,
but remembered as the reason. -/
def searchImage (root : Node) (folder : Place) (name : String) (arguments : List String)
    (last : Refusal) : List Path → Except Refusal (Bytes × List String)
  | [] => .error last
  | dir :: rest =>
    let candidate := if dir.text.isEmpty then name else (dir.join name).text
    match root.resolveImage folder candidate arguments true with
    | .ok found => .ok found
    | .error .noPermission => searchImage root folder name arguments .noPermission rest
    | .error .badFormat => .error .badFormat
    | .error r =>
      searchImage root folder name arguments (if last = .noPermission then last else r) rest

/-- The image and the arguments that a command line amounts to. A name without a slash is
searched along the variable PATH. -/
def findImage (root : Node) (folder : Place) (environment : Environment) (name : String)
    (arguments : List String) : Except Refusal (Bytes × List String) :=
  if name.isEmpty then .error .noEntry
  else if name.toList.contains '/' then root.resolveImage folder name arguments false
  else
    root.searchImage folder name arguments .noEntry
      (Path.splitSearchList ((environment.value? "PATH").getD defaultSearchList))

end ScriptSuite.Node
