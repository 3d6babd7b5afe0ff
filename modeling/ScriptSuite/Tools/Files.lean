import ScriptSuite.Text.Line
import ScriptSuite.Text.Number
import ScriptSuite.Tools.Printing

/-!
Tools that read and change files.
-/

namespace ScriptSuite.Tools

/-- The name that stands for the input. -/
def inputName : String := "-"

/-- What a name stands for: the input, or a file. -/
def sourceOf (tool : String) (files : Node) (i : Invocation) (name : String) :
    Except Report Bytes :=
  if name = inputName then .ok i.stdin
  else
    match contentOf files i name with
    | .ok data => .ok data
    | .error e =>
      let isOpened := e matches .refused .isFolder
      let text :=
        if (tool = "head" || tool = "tail") && !isOpened then
          "cannot open '" ++ name ++ "' for reading: " ++ words e
        else if (tool = "head" || tool = "tail") then
          "error reading '" ++ name ++ "': " ++ words e
        else name ++ ": " ++ words e
      .error (.complaint (tool ++ ": " ++ text ++ "\n") 1)

/-- Uses each source in turn, the input if no name is given. -/
def overSources (tool : String) (f : Bytes → Bytes) (names : List String) (i : Invocation)
    (files : Node) : Report :=
  let names := if names.isEmpty then [inputName] else names
  names.foldl (fun report name =>
    match sourceOf tool files i name with
    | .ok data => report.append (.output (f data))
    | .error complaint => report.append complaint) ⟨[], [], 0⟩

/-- Shows files one after another. -/
def cat : Program := reading fun i files =>
  overSources "cat" id (Invocation.splitOptions i.rest).2 i files

/-- The lines of some bytes, each with its line feed. -/
def byteLines : Bytes → List Bytes
  | [] => []
  | b :: bs =>
    if b = 10 then [b] :: byteLines bs
    else
      match byteLines bs with
      | [] => [[b]]
      | line :: lines => (b :: line) :: lines

/-- The number of lines that options ask for, ten if they do not, and the names. -/
def splitLineCount : List String → Nat × List String
  | "-n" :: n :: more => ((Text.digits? n.toList).getD 10, more)
  | first :: more =>
    match first.toList with
    | '-' :: 'n' :: digits => ((Text.digits? digits).getD 10, more)
    | '-' :: d :: digits =>
      match Text.digits? (d :: digits) with
      | some n => (n, more)
      | none => (10, first :: more)
    | _ => (10, first :: more)
  | [] => (10, [])

/-- Shows the first lines of files. -/
def head : Program := reading fun i files =>
  let (n, names) := splitLineCount i.rest
  overSources "head" (fun data => ((byteLines data).take n).flatten) names i files

/-- Shows the last lines of files. -/
def tail : Program := reading fun i files =>
  let (n, names) := splitLineCount i.rest
  overSources "tail" (fun data =>
    let lines := byteLines data
    (lines.drop (lines.length - n)).flatten) names i files

/-- The number of words in some bytes, given whether a word has begun. -/
def countWords (isInside : Bool) : Bytes → Nat
  | [] => 0
  | b :: bs =>
    let isGap := b = 32 || (9 ≤ b && b ≤ 13)
    (if !isGap && !isInside then 1 else 0) + countWords (!isGap) bs

/-- Counts lines, words and bytes. -/
def wc : Program := reading fun i files =>
  let (options, names) := Invocation.splitOptions i.rest
  let counts (data : Bytes) : List Nat :=
    let all := [(data.filter (· = 10)).length, countWords false data, data.length]
    match options.head? with
    | some "-l" => all.take 1
    | some "-w" => (all.drop 1).take 1
    | some "-c" => all.drop 2
    | _ => all
  let width := if names.isEmpty && (counts []).length = 3 then 7 else 1
  let shown (name : String) (data : Bytes) : String :=
    let numbers := (counts data).map fun n =>
      let digits := toString n
      String.ofList (List.replicate (width - digits.length) ' ') ++ digits
    " ".intercalate (numbers ++ if names.isEmpty then [] else [name]) ++ "\n"
  let sources := if names.isEmpty then [inputName] else names
  sources.foldl (fun report name =>
    match sourceOf "wc" files i name with
    | .ok data => report.append (.text (shown name data))
    | .error complaint => report.append complaint) ⟨[], [], 0⟩

/-- Whether a line comes first. -/
def lineLe (a b : Bytes) : Bool := !(decide (b < a))

/-- Shows lines in order. -/
def sort : Program := reading fun i files =>
  let (options, names) := Invocation.splitOptions i.rest
  let sources := if names.isEmpty then [inputName] else names
  let none : List Bytes × Report := ([], ⟨[], [], 0⟩)
  let gathered := sources.foldl (fun (lines, report) name =>
    match sourceOf "sort" files i name with
    | .ok data =>
      (lines ++ (byteLines data).map fun line => line.filter (· != 10), report)
    | .error complaint => (lines, report.append complaint)) none
  let sorted := gathered.1.mergeSort lineLe
  let sorted := if options.contains "-r" then sorted.reverse else sorted
  let sorted := if options.contains "-u" then sorted.eraseDups else sorted
  gathered.2.append (.output ((sorted.map fun line => line ++ [10]).flatten))

/-- The names of a folder that `ls` shows. -/
def shownNames (options : List String) (inside : Listing) : List String :=
  let isShown (name : List Char) : Bool :=
    name.head? != some '.' || options.any fun o => o.toList.any fun c => c = 'a' || c = 'A'
  let names := (inside.entries.map fun entry => Stray.spell entry.1).filter isShown
  let names := names.map String.ofList
  let dots := if options.any fun o => o.toList.contains 'a' then [".", ".."] else []
  (dots ++ names).mergeSort fun a b => !(b < a)

/-- Lists folders. -/
def ls : Program := reading fun i files =>
  let (options, names) := Invocation.splitOptions i.rest
  let names := if names.isEmpty then ["."] else names.mergeSort fun a b => !(b < a)
  let found := names.map fun name => (name, files.nodeFrom i.folder (Stray.locate name))
  let missing := found.filterMap fun (name, result) =>
    match result with
    | .error e =>
      some (Report.complaint ("ls: cannot access '" ++ name ++ "': " ++ words e ++ "\n") 2)
    | .ok _ => none
  let plain := found.filterMap fun (name, result) =>
    match result with
    | .ok (.file _) => some (name ++ "\n")
    | _ => none
  let folders := found.filterMap fun (name, result) =>
    match result with
    | .ok (.folder _ inside) =>
      let body := String.join ((shownNames options inside).map fun entry => entry ++ "\n")
      some (if names.length = 1 then body else name ++ ":\n" ++ body)
    | _ => none
  let blocks := (if plain.isEmpty then [] else [String.join plain]) ++ folders
  missing.foldr (fun complaint report => complaint.append report) (.text ("\n".intercalate blocks))

/-- A complaint about a file, as the tools that change files make it. -/
def refuse (text : String) (e : HostError) : Report :=
  .complaint (text ++ ": " ++ words e ++ "\n") 1

/-- A change for each name; there has to be one. -/
def changingEach (tool what : String) (f : Invocation → Node → String → Node × Report) :
    Program := changing fun i files =>
  match (Invocation.splitOptions i.rest).2 with
  | [] => (files, missingOperand tool what)
  | names => overNames (f i) files names

/-- Makes files that are missing. -/
def touch : Program := changingEach "touch" "file operand" fun i files name =>
  match files.nodeFrom i.folder (Stray.locate name) with
  | .ok _ => (files, ⟨[], [], 0⟩)
  | .error _ =>
    match files.storeFrom i.folder (Stray.locate name) [] with
    | .ok files => (files, ⟨[], [], 0⟩)
    | .error e => (files, refuse ("touch: cannot touch '" ++ name ++ "'") e)

/-- Makes folders; with `-p` also those that are missing above them. -/
def mkdir : Program := changingEach "mkdir" "operand" fun i files name =>
  let options := (Invocation.splitOptions i.rest).1
  let made :=
    if options.contains "-p" then
      Node.makeFoldersFrom files i.folder (Stray.locate name).components
    else
      match files.placeFrom i.folder (Stray.locate name) with
      | .ok place => Node.makeFolderAt files place
      | .error (.refused r) => .error r
      | .error _ => .error .noEntry
  match made with
  | .ok files => (files, ⟨[], [], 0⟩)
  | .error r => (files, refuse ("mkdir: cannot create directory '" ++ name ++ "'") (.refused r))

/-- Removes files; with `-r` also folders, and with `-f` nothing need be there. -/
def rm : Program := changing fun i files =>
  let (options, names) := Invocation.splitOptions i.rest
  let has (c : Char) : Bool := options.any fun o => o.toList.contains c
  if names.isEmpty && !has 'f' then (files, missingOperand "rm" "operand")
  else overNames (fun files name =>
    let complain (e : HostError) : Node × Report :=
      (files, refuse ("rm: cannot remove '" ++ name ++ "'") e)
    match files.placeFrom i.folder (Stray.locate name) with
    | .error e => if has 'f' then (files, ⟨[], [], 0⟩) else complain e
    | .ok place =>
      match files.find? place with
      | none => if has 'f' then (files, ⟨[], [], 0⟩) else complain (.refused .noEntry)
      | some node =>
        if node.isFolder && !has 'r' && !has 'R' then complain (.refused .isFolder)
        else (files.remove place, ⟨[], [], 0⟩)) files names

/-- Removes empty folders. -/
def rmdir : Program := changingEach "rmdir" "operand" fun i files name =>
  let complain (r : Refusal) : Node × Report :=
    (files, refuse ("rmdir: failed to remove '" ++ name ++ "'") (.refused r))
  match files.placeFrom i.folder (Stray.locate name) with
  | .error (.refused r) => complain r
  | .error _ => complain .noEntry
  | .ok place =>
    match files.find? place with
    | none => complain .noEntry
    | some (.file _) => complain .notFolder
    | some (.folder _ inside) =>
      if inside.isEmpty then (files.remove place, ⟨[], [], 0⟩) else complain .notEmpty

/-- The path of what a source becomes at a target, which may be a folder. -/
def targetFor (files : Node) (i : Invocation) (source target : String) : String :=
  match files.nodeFrom i.folder (Stray.locate target) with
  | .ok (.folder ..) =>
    ((Path.mk target).join (String.ofList (((Path.mk source).fileName?).getD source.toList))).text
  | _ => target

/-- Copies files. -/
def cp : Program := changing fun i files =>
  let names := (Invocation.splitOptions i.rest).2
  match names.getLast? with
  | none => (files, missingOperand "cp" "file operand")
  | some target =>
    overNames (fun files source =>
      match contentOf files i source with
      | .error e => (files, refuse ("cp: cannot stat '" ++ source ++ "'") e)
      | .ok data =>
        match files.storeFrom i.folder (Stray.locate (targetFor files i source target)) data with
        | .ok files => (files, ⟨[], [], 0⟩)
        | .error e => (files, refuse ("cp: cannot create regular file '" ++ target ++ "'") e))
      files names.dropLast

/-- Moves files and folders. -/
def mv : Program := changing fun i files =>
  let names := (Invocation.splitOptions i.rest).2
  match names.getLast? with
  | none => (files, missingOperand "mv" "file operand")
  | some target =>
    overNames (fun files source =>
      let goal := targetFor files i source target
      let missing := "mv: cannot stat '" ++ source ++ "'"
      let unmoved := "mv: cannot move '" ++ source ++ "' to '" ++ goal ++ "'"
      match files.nodeFrom i.folder (Stray.locate source),
          files.placeFrom i.folder (Stray.locate source),
          files.placeFrom i.folder (Stray.locate goal) with
      | .ok _, .ok from_, .ok place =>
        match Node.moveAt files from_ place with
        | .ok files => (files, ⟨[], [], 0⟩)
        | .error r => (files, refuse unmoved (.refused r))
      | .error e, _, _ => (files, refuse missing e)
      | _, _, .error e => (files, refuse unmoved e)
      | _, .error e, _ => (files, refuse missing e)) files names.dropLast

/-- The permission bits that a mode gives a file that has others. -/
def modeOf (old : Nat) (mode : String) : Option Nat :=
  match mode with
  | "+x" | "a+x" => some (old ||| 0o111)
  | "-x" => some (old &&& 0o666)
  | "u+x" => some (old ||| 0o100)
  | "+w" | "u+w" => some (old ||| 0o200)
  | "-w" | "a-w" => some (old &&& 0o555)
  | "+r" => some (old ||| 0o444)
  | _ =>
    let cs := mode.toList
    if !cs.isEmpty && cs.all fun c => '0' ≤ c && c ≤ '7' then
      some (cs.foldl (fun acc c => acc * 8 + (c.toNat - '0'.toNat)) 0)
    else none

/-- Changes permission bits. -/
def chmod : Program := changing fun i files =>
  match i.rest with
  | mode :: names =>
    overNames (fun files name =>
      match files.nodeFrom i.folder (Stray.locate name),
          files.placeFrom i.folder (Stray.locate name) with
      | .ok node, .ok place =>
        match modeOf node.mode mode with
        | some bits => (files.put (node.withMode bits) place, ⟨[], [], 0⟩)
        | none => (files, .complaint ("chmod: invalid mode: '" ++ mode ++ "'\n" ++ hint "chmod") 1)
      | .error e, _ => (files, refuse ("chmod: cannot access '" ++ name ++ "'") e)
      | _, .error e => (files, refuse ("chmod: cannot access '" ++ name ++ "'") e)) files names
  | [] => (files, missingOperand "chmod" "operand")

/-- Shows the input, and writes it to files as well. -/
def tee : Program := changing fun i files =>
  let (options, names) := Invocation.splitOptions i.rest
  let (files, report) := overNames (fun files name =>
    let data :=
      if options.contains "-a" then
        (match contentOf files i name with
        | .ok old => old
        | .error _ => []) ++ i.stdin
      else i.stdin
    match files.storeFrom i.folder (Stray.locate name) data with
    | .ok files => (files, ⟨[], [], 0⟩)
    | .error e => (files, refuse ("tee: " ++ name) e)) files names
  (files, report.append (.output i.stdin))

/-- Whether a test of one operand holds. -/
def testUnary (files : Node) (folder : Place) (operator operand : String) : Option Bool :=
  let node := files.nodeFrom folder (Stray.locate operand)
  let has (f : Node → Bool) : Option Bool :=
    match node with
    | .ok node => some (f node)
    | .error _ => some false
  match operator with
  | "-n" => some (!operand.isEmpty)
  | "-z" => some operand.isEmpty
  | "-e" | "-r" | "-w" => has fun _ => true
  | "-f" => has Node.isRegular
  | "-d" => has Node.isFolder
  | "-x" => has fun node => node.isFolder || node.mode &&& 0o111 != 0
  | "-s" => has fun node =>
    match node with
    | .file content => !content.data.isEmpty
    | .folder .. => true
  | "-L" | "-h" => some false
  | _ => none

/-- Whether a test of two operands holds. -/
def testBinary (left operator right : String) : Option Bool :=
  let number (f : Int → Int → Bool) : Option Bool :=
    match Text.integer? left.toList, Text.integer? right.toList with
    | some a, some b => some (f a b)
    | _, _ => none
  match operator with
  | "=" | "==" => some (left == right)
  | "!=" => some (left != right)
  | "-eq" => number fun a b => a == b
  | "-ne" => number fun a b => a != b
  | "-lt" => number fun a b => decide (a < b)
  | "-le" => number fun a b => decide (a ≤ b)
  | "-gt" => number fun a b => decide (b < a)
  | "-ge" => number fun a b => decide (b ≤ a)
  | _ => none

/-- Whether a test without conjunctions holds; nothing if it is malformed. -/
def testOne (files : Node) (folder : Place) : List String → Option Bool
  | [] => some false
  | "!" :: rest => (testOne files folder rest).map fun value => !value
  | [operand] => some (!operand.isEmpty)
  | [operator, operand] => testUnary files folder operator operand
  | [left, operator, right] => testBinary left operator right
  | _ => none

/-- The arguments between those that are a given word. -/
def splitAtWord (word : String) : List String → List (List String)
  | [] => [[]]
  | a :: rest =>
    if a = word then [] :: splitAtWord word rest
    else
      match splitAtWord word rest with
      | [] => [[a]]
      | group :: groups => (a :: group) :: groups

/-- Whether a test holds; nothing if it is malformed. -/
def testOf (files : Node) (folder : Place) (arguments : List String) : Option Bool :=
  if arguments.length ≤ 3 then testOne files folder arguments
  else
    let all (group : List String) : Option Bool :=
      ((splitAtWord "-a" group).mapM (testOne files folder)).map fun values => values.all id
    ((splitAtWord "-o" arguments).mapM all).map fun values => values.any id

/-- The operators that compare numbers. -/
def numberOperators : List String := ["-eq", "-ne", "-lt", "-le", "-gt", "-ge"]

/-- What is wrong with a malformed test. -/
def testComplaint : List String → String
  | [left, operator, right] =>
    if numberOperators.contains operator then
      "Illegal number: " ++ (if (Text.integer? left.toList).isSome then right else left)
    else left ++ ": unexpected operator"
  | "!" :: rest => testComplaint rest
  | arguments => arguments.headD "" ++ ": unexpected operator"

/-- The code that a test ends with. -/
def testCode (files : Node) (folder : Place) (arguments : List String) : Nat :=
  match testOf files folder arguments with
  | some true => 0
  | some false => 1
  | none => 2

/-- The program that tests. -/
def test : Program := reading fun i files => ⟨[], [], testCode files i.folder i.rest⟩

/-- The program that tests, written with brackets. -/
def bracket : Program := reading fun i files => ⟨[], [], testCode files i.folder i.rest.dropLast⟩

/-- The length of a pause: a decimal number, and a unit. -/
def pauseOf? (s : String) : Option Duration :=
  let cs := s.toList
  let (digits, scale) :=
    match cs.getLast? with
    | some 's' => (cs.dropLast, 1)
    | some 'm' => (cs.dropLast, 60)
    | some 'h' => (cs.dropLast, 3600)
    | some 'd' => (cs.dropLast, 86400)
    | _ => (cs, 1)
  let whole := digits.takeWhile (· != '.')
  let fraction := (digits.drop (whole.length + 1)).take 9
  let value (cs : List Char) : Option Nat := if cs.isEmpty then some 0 else Text.digits? cs
  if digits.all (· = '.') then none
  else
    match value whole, value fraction with
    | some w, some f =>
      some ⟨(w * Text.tenTo 9 + f * Text.tenTo (9 - fraction.length)) * scale⟩
    | _, _ => none

/-- The program that pauses. -/
def sleep : Program := fun i =>
  match i.rest.mapM pauseOf? with
  | some [] => (missingOperand "sleep" "operand").behaviour
  | some pauses =>
    .pause ⟨pauses.foldl (fun n d => n + d.nanoseconds) 0⟩ (fun _ => .dies) fun _ => .exit 0
  | none =>
    (Report.complaint
      ("sleep: invalid time interval '" ++ i.rest.headD "" ++ "'\n" ++ hint "sleep") 1).behaviour

/-- The tools by name. -/
def table : List (String × Program) :=
  [ ("[", bracket), ("basename", basename), ("cat", cat), ("chmod", chmod), ("cp", cp),
    ("dirname", dirname), ("echo", echo), ("false", giveUp), ("head", head), ("ls", ls),
    ("mkdir", mkdir), ("mv", mv), ("printenv", printenv), ("printf", printf), ("pwd", pwd),
    ("rm", rm), ("rmdir", rmdir), ("seq", seq), ("sleep", sleep), ("sort", sort),
    ("tail", tail), ("tee", tee), ("test", test), ("touch", touch), ("true", succeed),
    ("wc", wc) ]

end ScriptSuite.Tools
