import ScriptSuite.Text.Blank

/-!
Arguments of a command line.

A word that begins with two hyphens is a long switch, one that begins with a hyphen is a row
of short ones, and all else are operands; after `--` all words are operands. A switch is
given at most once, and its value does not begin with a hyphen unless it is attached.
-/

namespace ScriptSuite.Cli

/-- A switch: its long name, its letter if it has one, and whether a value follows it. -/
structure Switch where
  name : String
  letter : Option Char
  hasValue : Bool
  deriving DecidableEq, Repr

/-- What the words of a command line give: the switches with their values, and the operands,
both in order. -/
structure Arguments where
  switches : List (String × String)
  operands : List String
  deriving DecidableEq, Repr

namespace Arguments

def none : Arguments := ⟨[], []⟩

def operand (a : Arguments) (word : String) : Arguments :=
  { a with operands := a.operands ++ [word] }

/-- Adds a switch, unless it has been given. -/
def switch? (a : Arguments) (s : Switch) (value : String) : Option Arguments :=
  if (a.switches.lookup s.name).isSome then .none
  else some { a with switches := a.switches ++ [(s.name, value)] }

def has (a : Arguments) (name : String) : Bool := (a.switches.lookup name).isSome

def value? (a : Arguments) (name : String) : Option String := a.switches.lookup name

/-- Whether a word is taken for switches. -/
def isSwitch (word : List Char) : Bool :=
  match word with
  | '-' :: _ :: _ => true
  | _ => false

/-- The value of a switch that follows it as a word of its own, and the rest. -/
def takeValue? : List String → Option (String × List String)
  | [] => .none
  | word :: rest => if isSwitch word.toList then .none else some (word, rest)

/-- Reads a long switch without its hyphens, and the words after it. -/
def readLong? (switches : List Switch) (a : Arguments) (word : List Char) (rest : List String) :
    Option (Arguments × List String) :=
  let (name, attached) := Text.breakAt (· = '=') word
  match switches.find? fun s => s.name.toList = name with
  | .none => .none
  | some s =>
    match s.hasValue, attached with
    | true, _ :: value => (a.switch? s (String.ofList value)).map fun a => (a, rest)
    | true, [] => do
      let (value, rest) ← takeValue? rest
      let a ← a.switch? s value
      return (a, rest)
    | false, [] => (a.switch? s "").map fun a => (a, rest)
    | false, _ :: _ => .none

/-- Reads a row of short switches, and the words after it. What follows a switch with a value
is its value. -/
def readShort? (switches : List Switch) (a : Arguments) (rest : List String) :
    List Char → Option (Arguments × List String)
  | [] => some (a, rest)
  | c :: cs =>
    match switches.find? fun s => s.letter = some c with
    | .none => .none
    | some s =>
      if !s.hasValue then (a.switch? s "").bind fun a => readShort? switches a rest cs
      else
        match cs with
        | [] => do
          let (value, rest) ← takeValue? rest
          let a ← a.switch? s value
          return (a, rest)
        | '=' :: value => (a.switch? s (String.ofList value)).map fun a => (a, rest)
        | value => (a.switch? s (String.ofList value)).map fun a => (a, rest)

/-- Reads words. Every step takes one, so their number is fuel enough. -/
def readFrom (switches : List Switch) :
    Nat → Arguments → List String → Option Arguments
  | 0, a, _ => some a
  | _, a, [] => some a
  | fuel + 1, a, word :: rest =>
    match word.toList with
    | ['-', '-'] => some { a with operands := a.operands ++ rest }
    | '-' :: '-' :: long => do
      let (a, rest) ← readLong? switches a long rest
      readFrom switches fuel a rest
    | '-' :: c :: short => do
      let (a, rest) ← readShort? switches a rest (c :: short)
      readFrom switches fuel a rest
    | _ => readFrom switches fuel (a.operand word) rest

/-- Reads the words of a command line, if they fit the switches. -/
def read? (switches : List Switch) (words : List String) : Option Arguments :=
  readFrom switches words.length none words

end Arguments
end ScriptSuite.Cli
