import ScriptSuite.Toml.Flaw
import ScriptSuite.Toml.Moment

/-!
Tables of TOML documents.

A table is opened by a header, by a key with dots, or between braces; one that a header only
passes through may still get a header of its own. Each is filled in one way only.
-/

namespace ScriptSuite.Toml

/-- How a table has come about. -/
inductive Origin where
  | header
  /-- A header of a table inside it has passed through it. -/
  | passed
  | dotted
  | braces
  deriving Repr, DecidableEq, Inhabited

/-- A value. The entries of a table stand in the order in which they were set. -/
inductive Value where
  | integer (n : Int)
  | boolean (b : Bool)
  | string (s : String)
  | moment (m : Moment)
  | table (origin : Origin) (entries : List (String × Value))
  deriving Inhabited

abbrev Entries := List (String × Value)

namespace Entries

/-- Puts a value in the place of the one with a name. -/
def replace (entries : Entries) (name : String) (v : Value) : Entries :=
  entries.map fun e => if e.1 = name then (name, v) else e

/-- Sets the value of a key with dots. What stands in front of the last dot names tables
that are opened by such keys only. -/
def put (entries : Entries) (v : Value) : List String → Except Flaw Entries
  | [] => .error .missingKey
  | [name] =>
    match entries.lookup name with
    | none => .ok (entries ++ [(name, v)])
    | some _ => .error (.repeatedKey name)
  | name :: path =>
    match entries.lookup name with
    | none => do
      let inner ← put [] v path
      return entries ++ [(name, .table .dotted inner)]
    | some (.table .dotted inner) => do
      let inner ← put inner v path
      return entries.replace name (.table .dotted inner)
    | some _ => .error (.repeatedKey name)

/-- Opens the table that a header names. -/
def openTable (entries : Entries) : List String → Except Flaw Entries
  | [] => .error .missingKey
  | [name] =>
    match entries.lookup name with
    | none => .ok (entries ++ [(name, .table .header [])])
    | some (.table .passed inner) => .ok (entries.replace name (.table .header inner))
    | some _ => .error (.repeatedKey name)
  | name :: path =>
    match entries.lookup name with
    | none => do
      let inner ← openTable [] path
      return entries ++ [(name, .table .passed inner)]
    | some (.table .braces _) => .error (.repeatedKey name)
    | some (.table origin inner) => do
      let inner ← openTable inner path
      return entries.replace name (.table origin inner)
    | some _ => .error (.repeatedKey name)

/-- Sets the value of a key in the table that a header has opened. -/
def putUnder (entries : Entries) (key : List String) (v : Value) :
    List String → Except Flaw Entries
  | [] => entries.put v key
  | name :: path =>
    match entries.lookup name with
    | some (.table origin inner) => do
      let inner ← putUnder inner key v path
      return entries.replace name (.table origin inner)
    | _ => .error .missingBracket

end Entries
end ScriptSuite.Toml
