import ScriptSuite.Host.Files
import ScriptSuite.Suite.Config
import ScriptSuite.Suite.Error
import ScriptSuite.Text.Number
import ScriptSuite.Toml.Document
import ScriptSuite.Yaml.Node

/-!
Configurations as texts.

A configuration may be written in YAML or in TOML. The fields are the same, and are read by
the same rules; the formats differ in what their values can be taken for. A field that does
not exist, or that is given twice, is an error.
-/

namespace ScriptSuite

/-- Why a text is no configuration. -/
inductive ConfigFlaw where
  | yaml (flaw : Yaml.Flaw)
  | toml (flaw : Toml.Flaw)
  | notATable
  | unknownField (name : String)
  | repeatedField (name : String)
  | invalidValue (field : String)
  deriving Repr, DecidableEq

def ConfigFlaw.message : ConfigFlaw → String
  | .yaml flaw => flaw.message
  | .toml flaw => flaw.message
  | .notATable => "invalid type, expected struct SuiteConfig"
  | .unknownField name => "unknown field \x60" ++ name ++ "\x60"
  | .repeatedField name => "duplicate field \x60" ++ name ++ "\x60"
  | .invalidValue field => field ++ ": invalid value"

/-- What the values of a format can be taken for. -/
structure ValueReader (Value : Type) where
  /-- A whole number that is not negative and fits in 64 bits. -/
  natural? : Value → Option Nat
  boolean? : Value → Option Bool
  text? : Value → Option String
  /-- The entries of a table, in order. -/
  entries? : Value → Option (List (String × Value))
  /-- Whether a value stands for one that is not given; none if that cannot be said. -/
  isAbsent? : Value → Option Bool

namespace ValueReader

variable {Value : Type}

/-- A value that need not be given. -/
def optional? {α : Type} (r : ValueReader Value) (read : Value → Option α) (v : Value) :
    Option (Option α) :=
  match r.isAbsent? v with
  | none => none
  | some true => some none
  | some false => (read v).map some

/-- A table whose values are all read alike. -/
def table? {α : Type} (r : ValueReader Value) (read : Value → Option α) (v : Value) :
    Option (List (String × α)) :=
  (r.entries? v).bind fun entries =>
    entries.mapM fun entry => (read entry.2).map fun a => (entry.1, a)

/-- The tags of a table, the last value of each. -/
def lastOfEach (tags : List (String × Bool)) : List (String × Bool) :=
  tags.foldl (fun acc entry =>
    if (acc.lookup entry.1).isSome then
      acc.map fun e => if e.1 = entry.1 then entry else e
    else acc ++ [entry]) []

def setField (r : ValueReader Value) (c : SuiteConfig) (name : String) (v : Value) :
    Except ConfigFlaw SuiteConfig :=
  let set {α : Type} (value? : Option α) (put : α → SuiteConfig) : Except ConfigFlaw SuiteConfig :=
    match value? with
    | some value => .ok (put value)
    | none => .error (.invalidValue name)
  match name with
  | "version" =>
    set ((r.natural? v).filter (· < Text.limit32)) fun n => { c with version := n }
  | "timeout" => set (r.optional? r.natural? v) fun n => { c with timeout := n }
  | "wait_timeout" => set (r.optional? r.natural? v) fun n => { c with waitTimeout := n }
  | "env" =>
    set (r.table? r.text? v) fun e => { c with environment := Environment.putAll [] e }
  | "conditions" => set (r.table? r.boolean? v) fun t => { c with conditions := lastOfEach t }
  | "serial" => set (r.boolean? v) fun b => { c with isSerial := b }
  | "update" => set (r.boolean? v) fun b => { c with canUpdate := b }
  | "workdir_root" =>
    set (r.optional? r.text? v) fun s => { c with workRoot := s.map WorkRoot.ofText }
  | _ => .error (.unknownField name)

/-- Sets the fields of a configuration in order; `given` names those before. -/
def setFields (r : ValueReader Value) (given : List String) (c : SuiteConfig) :
    List (String × Value) → Except ConfigFlaw SuiteConfig
  | [] => .ok c
  | (name, v) :: rest =>
    if given.contains name then .error (.repeatedField name)
    else do
      let c ← r.setField c name v
      setFields r (name :: given) c rest

/-- The configuration that a table gives. -/
def config (r : ValueReader Value) (v : Value) : Except ConfigFlaw SuiteConfig :=
  match r.entries? v with
  | some entries => r.setFields [] .empty entries
  | none => .error .notATable

end ValueReader

/-! ### YAML -/

namespace Yaml

/-- The words for a value that is not given. -/
def absentWords : List String := ["null", "Null", "NULL", "~"]

/-- The number that digits of a base write. -/
def numberIn? (base : Nat) (cs : List Char) : Option Nat :=
  if cs.isEmpty then none
  else
    cs.foldl (fun n c => n.bind fun n =>
      ((Text.Ranges.hexDigit? c).filter (· < base)).map (n * base + ·)) (some 0)

/-- The number that a plain word writes: after at most one plus sign, in one of three bases
with a mark in front, or in decimal digits of which the first of several is not zero. -/
def number? (word : List Char) : Option Nat :=
  let unsigned := match word with | '+' :: rest => rest | _ => word
  let value : Option Nat :=
    match unsigned with
    | '0' :: 'x' :: rest => numberIn? 16 rest
    | '0' :: 'o' :: rest => numberIn? 8 rest
    | '0' :: 'b' :: rest => numberIn? 2 rest
    | '0' :: _ :: _ => none
    | _ => numberIn? 10 unsigned
  value.filter (· < Text.limit64)

/-- The truth value that a plain word writes. -/
def truth? (word : String) : Option Bool :=
  if ["true", "True", "TRUE"].contains word then some true
  else if ["false", "False", "FALSE"].contains word then some false
  else none

/-- The full name of a tag of the format itself. -/
def coreTag (name : String) : String := "tag:yaml.org,2002:" ++ name

/-- The word that a scalar gives where a value of a kind is asked for: a plain scalar does,
and so does a literal block with the tag of that kind. -/
def word? (kind : String) : Node → Option String
  | .scalar tag text style =>
    if style = .plain || (style = .literal && tag = some (coreTag kind)) then some text else none
  | _ => none

/-- The text of a scalar. -/
def Node.text? : Node → Option String
  | .scalar _ text _ => some text
  | _ => none

/-- The entries of a mapping, whose keys have to be scalars. What is missing counts as a
mapping without entries. -/
def Node.entries? : Node → Option (List (String × Node))
  | .mapping entries => entries.mapM fun entry => entry.1.text?.map fun key => (key, entry.2)
  | .scalar _ "" .plain => some []
  | _ => none

/-- Whether a tree stands for a value that is not given. -/
def Node.isAbsent? : Node → Option Bool
  | .scalar tag text .plain =>
    if tag = some (coreTag "null") then (if absentWords.contains text then some true else none)
    else some (tag = none && (text = "" || absentWords.contains text))
  | _ => some false

/-- What the values of the format can be taken for. -/
def valueReader : ValueReader Node where
  natural? n := (word? "int" n).bind fun w => number? w.toList
  boolean? n := (word? "bool" n).bind truth?
  text? := Node.text?
  entries? := Node.entries?
  isAbsent? := Node.isAbsent?

end Yaml

/-! ### TOML -/

namespace Toml

/-- The name of the one entry of the table that a point in time can be taken for. -/
def momentKey : String := "$__toml_private_datetime"

/-- What the values of the format can be taken for. -/
def valueReader : ValueReader Value where
  natural?
    | .integer n => if 0 ≤ n then some n.toNat else none
    | _ => none
  boolean?
    | .boolean b => some b
    | _ => none
  text?
    | .string s => some s
    | _ => none
  entries?
    | .table _ entries => some entries
    | .moment m => some [(momentKey, .string (String.ofList m.text))]
    | _ => none
  isAbsent? _ := some false

end Toml

namespace SuiteConfig

/-- The configuration that a YAML text gives. -/
def ofYaml (text : String) : Except ConfigFlaw SuiteConfig :=
  match Yaml.Node.ofText text with
  | .ok n => Yaml.valueReader.config n
  | .error flaw => .error (.yaml flaw)

/-- The configuration that a TOML text gives. -/
def ofToml (text : String) : Except ConfigFlaw SuiteConfig :=
  match Toml.Entries.ofText text with
  | .ok entries => Toml.valueReader.config (.table .header entries)
  | .error flaw => .error (.toml flaw)

/-- The names of files that hold a configuration, in the order in which they are tried, and
whether what they hold is TOML. -/
def fileNames : List (String × Bool) :=
  [("scriptest.yaml", false), ("scriptest.yml", false), ("scriptest.toml", true)]

/-- The configuration of a suite, if its folder has a file for one. -/
def load (h : Host) (folder : Path) : Except LoadError (Option SuiteConfig) :=
  match fileNames.find? fun name => h.isFile (folder.join name.1) with
  | none => .ok none
  | some (name, isToml) =>
    let path := folder.join name
    match h.readText path with
    | .error e => .error (.host path e)
    | .ok text =>
      if isToml then
        match ofToml text with
        | .ok c => .ok (some c)
        | .error flaw => .error (.toml flaw.message)
      else
        match ofYaml text with
        | .ok c => .ok (some c)
        | .error flaw => .error (.yaml flaw.message)

end SuiteConfig
end ScriptSuite
