import ScriptSuite.Shell.Syntax
import ScriptSuite.Text.Number
import ScriptSuite.Variable.Environment

/-!
Whole numbers of the shell.
-/

namespace ScriptSuite.Shell.Arithmetic

/-- The binary operators with their strengths, longest first. -/
def operators : List (List Char × Nat) :=
  [(['|', '|'], 1), (['&', '&'], 2), (['=', '='], 6), (['!', '='], 6), (['<', '='], 7),
    (['>', '='], 7), (['<', '<'], 8), (['>', '>'], 8), (['|'], 3), (['^'], 4), (['&'], 5),
    (['<'], 7), (['>'], 7), (['+'], 9), (['-'], 9), (['*'], 10), (['/'], 10), (['%'], 10)]

/-- The value of an operator; nothing for a division by zero. -/
def apply (op : List Char) (a b : Int) : Option Int :=
  let truth (value : Bool) : Option Int := some (if value then 1 else 0)
  let words (f : Int64 → Int64 → Int64) : Option Int := some (f (.ofInt a) (.ofInt b)).toInt
  match op with
  | ['|', '|'] => truth (a != 0 || b != 0)
  | ['&', '&'] => truth (a != 0 && b != 0)
  | ['|'] => words fun x y => x ||| y
  | ['^'] => words fun x y => x ^^^ y
  | ['&'] => words fun x y => x &&& y
  | ['=', '='] => truth (a == b)
  | ['!', '='] => truth (a != b)
  | ['<', '='] => truth (decide (a ≤ b))
  | ['>', '='] => truth (decide (b ≤ a))
  | ['<'] => truth (decide (a < b))
  | ['>'] => truth (decide (b < a))
  | ['<', '<'] => words fun x y => x <<< y
  | ['>', '>'] => words fun x y => x >>> y
  | ['+'] => words fun x y => x + y
  | ['-'] => words fun x y => x - y
  | ['*'] => words fun x y => x * y
  | ['/'] => if b = 0 then none else some (Int.tdiv a b)
  | ['%'] => if b = 0 then none else some (Int.tmod a b)
  | _ => none

mutual

/-- Reads an operand and the operators after it that bind at least as strongly. -/
def readFrom (env : Environment) : (fuel : Nat) → (strength : Nat) → List Char →
    Option (Int × List Char)
  | 0, _, _ => none
  | fuel + 1, strength, cs =>
    match readOperand env fuel (Text.trimStart cs) with
    | none => none
    | some (value, rest) => readMore env fuel strength value rest

/-- Reads the operators after an operand. -/
def readMore (env : Environment) : (fuel : Nat) → (strength : Nat) → Int → List Char →
    Option (Int × List Char)
  | 0, _, _, _ => none
  | fuel + 1, strength, value, cs =>
    let cs := Text.trimStart cs
    match operators.find? fun op => op.1.isPrefixOf cs with
    | none => some (value, cs)
    | some (op, own) =>
      if own < strength then some (value, cs)
      else match readFrom env fuel (own + 1) (cs.drop op.length) with
      | none => none
      | some (right, rest) =>
        match apply op value right with
        | none => none
        | some value => readMore env fuel strength value rest

def readOperand (env : Environment) : (fuel : Nat) → List Char → Option (Int × List Char)
  | 0, _ => none
  | fuel + 1, cs =>
    match cs with
    | '(' :: rest =>
      match readFrom env fuel 1 rest with
      | some (value, ')' :: rest) => some (value, rest)
      | _ => none
    | '-' :: rest => (readOperand env fuel (Text.trimStart rest)).map fun (v, r) => (-v, r)
    | '+' :: rest => readOperand env fuel (Text.trimStart rest)
    | '!' :: rest =>
      (readOperand env fuel (Text.trimStart rest)).map fun (v, r) => (if v = 0 then 1 else 0, r)
    | _ =>
      let digits := cs.takeWhile Char.isDigit
      match Text.digits? digits with
      | some n => some ((n : Int), cs.drop digits.length)
      | none =>
        let name := cs.takeWhile isNameChar
        if name.isEmpty then none
        else
          let text := ((env.value? (String.ofList name)).getD "0").toList
          some ((Text.integer? (Text.trim text)).getD 0, cs.drop name.length)

end

/-- The value of an expression. -/
def value? (env : Environment) (cs : List Char) : Option Int :=
  match readFrom env (3 * cs.length + 8) 1 cs with
  | some (value, rest) => if (Text.trim rest).isEmpty then some value else none
  | none => none

end ScriptSuite.Shell.Arithmetic
