/-!
References to variables in a text.

`$name` refers to the variable whose name is the longest run of ASCII letters, digits
and underscores, `${name}` to the one whose name runs up to the first closing brace. A
dollar sign that starts neither stands for itself. `tokens` cuts a text into such
references and single characters, and `expand` puts values in their place, each
reference looked up once and from left to right; values are not read again.
-/

namespace ScriptSuite.Variable

/-- A part of a text. -/
inductive Token where
  | char (c : Char)
  | reference (name : List Char)
  deriving DecidableEq, Repr

/-- The characters of a name that stands without braces. -/
def isNameChar (c : Char) : Bool :=
  c.isAlphanum || c = '_'

/-- The reference that the text after a dollar sign completes: its name, and how many
characters after the dollar sign belong to it. -/
def reference? (cs : List Char) : Option (List Char × Nat) :=
  match cs with
  | '{' :: more =>
    if more.contains '}' then
      let name := more.takeWhile (· != '}')
      some (name, name.length + 2)
    else none
  | _ =>
    let name := cs.takeWhile isNameChar
    if name.isEmpty then none else some (name, name.length)

/-- The parts of a text, of which the first `skip` characters belong to a reference that
has been read. -/
def tokensFrom : (skip : Nat) → List Char → List Token
  | _, [] => []
  | skip + 1, _ :: cs => tokensFrom skip cs
  | 0, c :: cs =>
    if c = '$' then
      match reference? cs with
      | some (name, length) => .reference name :: tokensFrom length cs
      | none => .char '$' :: tokensFrom 0 cs
    else .char c :: tokensFrom 0 cs

/-- The parts of a text: references as they are found from left to right, and all other characters
one by one. The text of a reference is never read again. -/
def tokens (cs : List Char) : List Token :=
  tokensFrom 0 cs

/-- Puts the values in place of the references; a variable without a value leaves
nothing. -/
def expandTokens {m : Type → Type} [Monad m] (lookup : String → m (Option String)) :
    List Token → m (List Char)
  | [] => pure []
  | .char c :: rest => do
    let tail ← expandTokens lookup rest
    pure (c :: tail)
  | .reference name :: rest => do
    let value ← lookup (String.ofList name)
    let tail ← expandTokens lookup rest
    pure ((value.getD "").toList ++ tail)

/-- Puts the values of variables into a text. Each reference is looked up once and in order, in
whatever way the caller looks up; what is put in is not searched for references. -/
def expand {m : Type → Type} [Monad m] (lookup : String → m (Option String))
    (cs : List Char) : m (List Char) :=
  expandTokens lookup (tokens cs)

end ScriptSuite.Variable
