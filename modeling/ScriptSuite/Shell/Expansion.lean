import ScriptSuite.Shell.Pattern
import ScriptSuite.Shell.State

/-!
Fields: what words become when the values of their parts are known.
-/

namespace ScriptSuite.Shell

/-- A part of a word whose value is known. -/
inductive Bit where
  /-- Belongs to one field as it is. -/
  | fixed (cs : List Char)
  /-- Belongs to one field, and may hold signs of a pattern. -/
  | signs (cs : List Char)
  /-- Is split at blanks, and may hold signs of a pattern. -/
  | loose (cs : List Char)
  /-- Ends a field. -/
  | cut
  deriving DecidableEq, Repr

/-- Whether a character splits values. -/
def isSplitter (c : Char) : Bool := isGap c || c = '\n'

/-- Characters that may be signs, or may not. -/
def spotsOf (mayBeSigns : Bool) (cs : List Char) : List Spot := cs.map fun c => (c, mayBeSigns)

/-- Splits a value; `open_` is the field that it continues, if any. -/
def splitLoose : (open_ : Option (List Spot)) → List Char →
    List (List Spot) × Option (List Spot)
  | open_, [] => ([], open_)
  | open_, c :: cs =>
    if isSplitter c then
      let (fields, last) := splitLoose none cs
      (open_.toList ++ fields, last)
    else splitLoose (some (open_.getD [] ++ [(c, true)])) cs

/-- The fields of a word. -/
def fieldsFrom : (open_ : Option (List Spot)) → List Bit → List (List Spot)
  | open_, [] => open_.toList
  | open_, .fixed cs :: rest => fieldsFrom (some (open_.getD [] ++ spotsOf false cs)) rest
  | open_, .signs cs :: rest => fieldsFrom (some (open_.getD [] ++ spotsOf true cs)) rest
  | open_, .cut :: rest => open_.toList ++ fieldsFrom none rest
  | open_, .loose cs :: rest =>
    let (fields, last) := splitLoose open_ cs
    fields ++ fieldsFrom last rest

def fieldsOf (bits : List Bit) : List (List Spot) := fieldsFrom none bits

/-- The signs of a word that is a pattern. -/
def patternOf (bits : List Bit) : List Sign :=
  signsOf <| bits.flatMap fun bit =>
    match bit with
    | .fixed cs => spotsOf false cs
    | .signs cs | .loose cs => spotsOf true cs
    | .cut => [(' ', false)]

/-- The text of a word that is not split. -/
def textOfBits (bits : List Bit) : String :=
  String.ofList <| bits.flatMap fun bit =>
    match bit with
    | .fixed cs | .signs cs | .loose cs => cs
    | .cut => [' ']

/-- A value, split unless it is quoted. -/
def bitOf (isQuoted : Bool) (cs : List Char) : Bit :=
  if isQuoted then .fixed cs else .loose cs

/-- The text without line feeds at its end. -/
def withoutFeeds (cs : List Char) : List Char :=
  (cs.reverse.dropWhile (· = '\n')).reverse

/-- Whether a word is all parameters between quotes. It is no field if there are none. -/
def isAllParameters (w : ShellWord) : Bool :=
  w = [.text true [], .parameter true ['@'] .value [], .text true []]

/-- The parts of a text that is read as if it stood between double quotes. -/
def quotedParts (cs : List Char) : ShellWord :=
  match readWord (cs.length + 2) true (cs ++ ['"']) with
  | .ok (parts, _) => parts
  | .error _ => [.text true cs]

/-- The parts of a text that is read as a word. -/
def looseParts : (fuel : Nat) → List Char → ShellWord
  | 0, _ => []
  | fuel + 1, cs =>
    match readWord (cs.length + 2) false cs with
    | .ok (parts, []) => parts
    | .ok (parts, c :: rest) => parts ++ .text true [c] :: looseParts fuel rest
    | .error _ => [.text true cs]

/-- The value of a parameter as it is asked for: its bits, or the word that stands for
it, and the variable to be set to that word. -/
inductive ParameterValue where
  | bits (bs : List Bit)
  | standIn (w : ShellWord) (assigns : Bool)
  /-- The value without what the pattern matches at its front or end. -/
  | trimmed (value : List Char) (atFront isLongest : Bool) (pattern : ShellWord)
  | refused (text : String)

/-- What a demand on a parameter comes to. -/
def parameterValue (st : State) (isQuoted : Bool) (name : List Char) (demand : Demand)
    (word : List Char) : ParameterValue :=
  let key := String.ofList name
  let value := st.parameter? key
  let isMissing (orEmpty : Bool) : Bool :=
    if orEmpty then (value.getD "").isEmpty else value.isNone
  let plain : ParameterValue :=
    if isQuoted && key = "@" then
      .bits ((st.parameters.map fun p => Bit.fixed p.toList).intersperse .cut)
    else .bits [bitOf isQuoted (value.getD "").toList]
  let pattern := looseParts (word.length + 1) word
  match demand with
  | .value =>
    if st.options.contains 'u' && value.isNone then .refused (key ++ ": parameter not set")
    else plain
  | .length => .bits [bitOf isQuoted (toString (value.getD "").length).toList]
  | .default orEmpty => if isMissing orEmpty then .standIn (quotedParts word) false else plain
  | .assigned orEmpty => if isMissing orEmpty then .standIn (quotedParts word) true else plain
  | .alternative orEmpty =>
    if isMissing orEmpty then .bits [bitOf isQuoted []] else .standIn (quotedParts word) false
  | .required orEmpty =>
    if isMissing orEmpty then .refused (key ++ ": " ++ String.ofList word) else plain
  | .withoutFront isLongest => .trimmed (value.getD "").toList true isLongest pattern
  | .withoutEnd isLongest => .trimmed (value.getD "").toList false isLongest pattern
  | .unknown => .refused "Bad substitution"

end ScriptSuite.Shell
