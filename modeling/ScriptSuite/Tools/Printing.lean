import ScriptSuite.Text.Number
import ScriptSuite.Tools.Basic

/-!
Tools that print their arguments.

There are two ways to echo: the program takes the option `-n` and prints the rest as it
is, the one of the shell also reads escapes. Formats are used again as long as there are
arguments left.
-/

namespace ScriptSuite.Tools

/-- The value of some octal digits. -/
def octalValue (cs : List Char) : Nat :=
  cs.foldl (fun acc c => acc * 8 + (c.toNat - '0'.toNat)) 0

def isOctal (c : Char) : Bool := '0' ≤ c && c ≤ '7'

/-- The character that a letter after a backslash stands for. -/
def escape? (c : Char) : Option Nat :=
  match c with
  | 'a' => some 7
  | 'b' => some 8
  | 'f' => some 12
  | 'n' => some 10
  | 'r' => some 13
  | 't' => some 9
  | 'v' => some 11
  | '\\' => some 92
  | _ => none

def byteOf (n : Nat) : UInt8 := UInt8.ofNat (n % 256)

/-- Text in which escapes are read; `\c` ends it. An octal escape starts with a zero. -/
def unescape : (skip : Nat) → List Char → Bytes
  | _, [] => []
  | skip + 1, _ :: cs => unescape skip cs
  | 0, '\\' :: 'c' :: _ => []
  | 0, '\\' :: '0' :: cs =>
    let digits := (cs.takeWhile isOctal).take 3
    byteOf (octalValue digits) :: unescape (digits.length + 1) ('0' :: cs)
  | 0, '\\' :: c :: cs =>
    match escape? c with
    | some n => byteOf n :: unescape 1 (c :: cs)
    | none => Stray.encode ['\\'] ++ unescape 0 (c :: cs)
  | 0, c :: cs => Stray.encode [c] ++ unescape 0 cs

/-- Whether escapes end a text before its line feed. -/
def isCut : List Char → Bool
  | '\\' :: 'c' :: _ => true
  | '\\' :: _ :: cs => isCut cs
  | _ :: cs => isCut cs
  | [] => false

/-- Prints arguments with blanks between them. -/
def echoPlain (arguments : List String) : Bytes :=
  let (names, last) :=
    match arguments with
    | "-n" :: more => (more, [])
    | _ => (arguments, [byteOf 10])
  Stray.bytesOf (" ".intercalate names) ++ last

/-- Prints arguments with blanks between them, escapes read. -/
def echoEscaped (arguments : List String) : Bytes :=
  let (names, last) :=
    match arguments with
    | "-n" :: more => (more, [])
    | _ => (arguments, [byteOf 10])
  let cs := (" ".intercalate names).toList
  unescape 0 cs ++ (if isCut cs then [] else last)

/-- A part of a format. -/
inductive FormatPart where
  | byte (b : UInt8)
  /-- A place for an argument. -/
  | place (left zero : Bool) (width : Nat) (precision : Option Nat) (kind : Char)
  /-- Ends all output. -/
  | cut
  deriving DecidableEq

/-- Reads what follows a percent sign: the place, and how many characters it takes. -/
def place? (cs : List Char) : Option (FormatPart × Nat) :=
  let flags := cs.takeWhile fun c => "-+ #0".toList.contains c
  let afterFlags := cs.drop flags.length
  let width := afterFlags.takeWhile Char.isDigit
  let afterWidth := afterFlags.drop width.length
  let (precision, used, rest) :=
    match afterWidth with
    | '.' :: more =>
      let digits := more.takeWhile Char.isDigit
      (some ((Text.digits? digits).getD 0), digits.length + 1, more.drop digits.length)
    | _ => (none, 0, afterWidth)
  match rest with
  | kind :: _ =>
    some (.place (flags.contains '-') (flags.contains '0') ((Text.digits? width).getD 0)
      precision kind, flags.length + width.length + used + 1)
  | [] => none

/-- The parts of a format. -/
def formatParts : (skip : Nat) → List Char → List FormatPart
  | _, [] => []
  | skip + 1, _ :: cs => formatParts skip cs
  | 0, '%' :: '%' :: cs => .byte (byteOf 37) :: formatParts 1 ('%' :: cs)
  | 0, '%' :: cs =>
    match place? cs with
    | some (part, used) => part :: formatParts used cs
    | none => .byte (byteOf 37) :: formatParts 0 cs
  | 0, '\\' :: c :: cs =>
    if c = 'c' then [.cut]
    else if isOctal c then
      let digits := ((c :: cs).takeWhile isOctal).take 3
      .byte (byteOf (octalValue digits)) :: formatParts digits.length (c :: cs)
    else
      match escape? c with
      | some n => .byte (byteOf n) :: formatParts 1 (c :: cs)
      | none =>
        if c = '"' then .byte (byteOf 34) :: formatParts 1 (c :: cs)
        else .byte (byteOf 92) :: formatParts 0 (c :: cs)
  | 0, c :: cs => (Stray.encode [c]).map .byte ++ formatParts 0 cs

/-- Fills a text up to a width. -/
def fill (left zero : Bool) (width : Nat) (cs : List Char) : List Char :=
  let gap := width - cs.length
  if left then cs ++ List.replicate gap ' '
  else if zero then
    match cs with
    | '-' :: digits => '-' :: List.replicate gap '0' ++ digits
    | _ => List.replicate gap '0' ++ cs
  else List.replicate gap ' ' ++ cs

/-- The number that an argument writes, zero if it writes none. -/
def argumentNumber (s : String) : Int :=
  match s.toList with
  | ['\'', c] => (c.toNat : Int)
  | cs => (Text.integer? cs).getD 0

/-- An argument in its place. -/
def placeArgument (left zero : Bool) (width : Nat) (precision : Option Nat) (kind : Char)
    (argument : String) : Bytes :=
  let number (base : Nat) : List Char :=
    let n := argumentNumber argument
    let digits := Nat.toDigits base n.natAbs
    let digits := List.replicate (precision.getD 0 - digits.length) '0' ++ digits
    if n < 0 then '-' :: digits else digits
  let shown (cs : List Char) : Bytes := Stray.encode (fill left zero width cs)
  match kind with
  | 'd' | 'i' | 'u' => shown (number 10)
  | 'o' => shown (number 8)
  | 'x' => shown (number 16)
  | 'X' => shown ((number 16).map Char.toUpper)
  | 'c' => shown (argument.toList.take 1)
  | 'b' => unescape 0 argument.toList
  | _ =>
    shown (match precision with
      | some n => argument.toList.take n
      | none => argument.toList)

/-- One use of a format: what it prints, the arguments that are left, and whether the
output has been cut. -/
def useFormat : List FormatPart → List String → Bytes × List String × Bool
  | [], arguments => ([], arguments, false)
  | .cut :: _, arguments => ([], arguments, true)
  | .byte b :: parts, arguments =>
    let (out, arguments, isCut) := useFormat parts arguments
    (b :: out, arguments, isCut)
  | .place left zero width precision kind :: parts, arguments =>
    let (out, more, isCut) := useFormat parts arguments.tail
    (placeArgument left zero width precision kind (arguments.headD "") ++ out, more, isCut)

/-- Uses a format as long as it takes arguments and there are some. -/
def useFormats (parts : List FormatPart) : (rounds : Nat) → List String → Bytes
  | 0, _ => []
  | rounds + 1, arguments =>
    let (out, more, isCut) := useFormat parts arguments
    if isCut || more.isEmpty || more.length = arguments.length then out
    else out ++ useFormats parts rounds more

/-- Prints arguments by a format. -/
def printFormat : List String → Report
  | [] => missingOperand "printf" "operand"
  | format :: arguments =>
    .output (useFormats (formatParts 0 format.toList) (arguments.length + 1) arguments)

/-- The program that echoes. -/
def echo : Program := telling fun i => .output (echoPlain i.rest)

/-- The program that prints by a format. -/
def printf : Program := telling fun i => printFormat i.rest

/-- Counts from the first to the last number. -/
def countUp (first last : Int) (step : Int) : List Int :=
  if step = 0 then []
  else
    let n := if 0 < step then (last - first) / step + 1 else (first - last) / (-step) + 1
    (List.range n.toNat).map fun (k : Nat) => first + step * (k : Int)

/-- Prints numbers, one a line. -/
def seqOf (arguments : List String) : Report :=
  let shown (first step last : Int) : Report :=
    .text (String.join ((countUp first last step).map fun n => toString n ++ "\n"))
  match arguments.map fun a => Text.integer? a.toList with
  | [some last] => shown 1 1 last
  | [some first, some last] => shown first 1 last
  | [some first, some step, some last] => shown first step last
  | [] => missingOperand "seq" "operand"
  | _ =>
    let wrong := arguments.find? fun a => (Text.integer? a.toList).isNone
    .complaint
      ("seq: invalid floating point argument: '" ++ wrong.getD "" ++ "'\n" ++ hint "seq") 1

/-- The program that counts. -/
def seq : Program := telling fun i => seqOf i.rest

/-- The program that shows the folder it is started in. -/
def pwd : Program := telling fun i =>
  .text (String.ofList ('/' :: Text.joinWith ['/'] (i.folder.map Stray.spell)) ++ "\n")

/-- The program that shows variables. -/
def printenv : Program := telling fun i =>
  match i.rest with
  | [] => .text (String.join (i.environment.map fun (k, v) => k ++ "=" ++ v ++ "\n"))
  | names =>
    let values := names.filterMap i.environment.value?
    ⟨Stray.bytesOf (String.join (values.map fun v => v ++ "\n")), [],
      if values.length = names.length then 0 else 1⟩

/-- The program that ends with success. -/
def succeed : Program := telling fun _ => .output []

/-- The program that ends without success. -/
def giveUp : Program := telling fun _ => ⟨[], [], 1⟩

/-- The last segment of a path. -/
def basename : Program := telling fun i =>
  match i.rest with
  | name :: suffix =>
    let base := ((Path.mk name).fileName?).getD name.toList
    let cut := (suffix.head?.bind fun s => Text.dropTail? s.toList base).getD base
    .text (String.ofList cut ++ "\n")
  | [] => missingOperand "basename" "operand"

/-- A path without its last segment. -/
def dirname : Program := telling fun i =>
  match i.rest with
  | name :: _ =>
    let parent := ((Path.mk name).parent?.map Path.text).getD name
    .text ((if parent.isEmpty then "." else parent) ++ "\n")
  | [] => missingOperand "dirname" "operand"

end ScriptSuite.Tools
