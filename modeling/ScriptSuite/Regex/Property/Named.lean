import ScriptSuite.Text.Ranges

/-!
Sets of characters that go by names.

Names are compared without regard to case, blanks, hyphens and underscores, and a lead
`is` does not count; so they are kept in small letters without any of these.
-/

namespace ScriptSuite.Regex.Property

/-- A set of characters and the names that it goes by. -/
structure Named where
  names : List String
  /-- The set, written as `Text.Ranges.ofText` reads it. -/
  table : String

def Named.ranges (n : Named) : Text.Ranges :=
  Text.Ranges.ofText n.table

def Named.find? (sets : List Named) (name : String) : Option Text.Ranges :=
  (sets.find? fun n => n.names.contains name).map Named.ranges

/-- Drops a lead `is`, in letters of any case. -/
def dropIs : List Char → Bool × List Char
  | a :: b :: rest =>
    if a.toLower = 'i' && b.toLower = 's' then (true, rest) else (false, a :: b :: rest)
  | cs => (false, cs)

/-- A name as it is compared. The short name `isc` keeps its lead: without it, it would be
the name of a category. -/
def normalName (name : List Char) : String :=
  let (dropped, rest) := dropIs name
  let counts (c : Char) : Bool := !(c = ' ' || c = '_' || c = '-') && c.toNat < 0x80
  let kept := (rest.filter counts).map Char.toLower
  if dropped && kept = ['c'] then "isc" else String.ofList kept

end ScriptSuite.Regex.Property
