import ScriptSuite.Shell.Syntax

/-!
Tokens of the shell.
-/

namespace ScriptSuite.Shell

/-- What is wrong with a program of the shell. -/
inductive SyntaxFault where
  | unterminated (what : String)
  | unexpected (what : String)
  /-- Something else was expected. -/
  | expected (wanted what : String)
  deriving DecidableEq, Repr

def SyntaxFault.message : SyntaxFault → String
  | .unterminated what => "Syntax error: Unterminated " ++ what
  | .unexpected what => "Syntax error: " ++ what ++ " unexpected"
  | .expected wanted what =>
    "Syntax error: " ++ what ++ " unexpected (expecting \"" ++ wanted ++ "\")"

/-- The text up to the character that closes it, and what follows. Brackets nest, and
quotes and backslashes hide them. -/
def splitClosed (opens closes : Char) : (depth : Nat) → List Char →
    Option (List Char × List Char)
  | _, [] => none
  | depth, '\\' :: c :: cs =>
    (splitClosed opens closes depth cs).map fun (inside, rest) => ('\\' :: c :: inside, rest)
  | depth, c :: cs =>
    if c = closes then
      match depth with
      | 0 => some ([], cs)
      | depth + 1 =>
        (splitClosed opens closes depth cs).map fun (inside, rest) => (c :: inside, rest)
    else
      let depth := if c = opens then depth + 1 else depth
      (splitClosed opens closes depth cs).map fun (inside, rest) => (c :: inside, rest)

/-- The operators that may follow a parameter in braces, longest first. -/
def parameterOperators : List (List Char × Demand) :=
  [ ([':', '-'], .default true), ([':', '='], .assigned true), ([':', '+'], .alternative true),
    ([':', '?'], .required true), (['#', '#'], .withoutFront true),
    (['%', '%'], .withoutEnd true), (['-'], .default false), (['='], .assigned false),
    (['+'], .alternative false), (['?'], .required false), (['#'], .withoutFront false),
    (['%'], .withoutEnd false) ]

/-- Reads what stands in braces after a dollar sign. -/
def bracedParameter (isQuoted : Bool) (inside : List Char) : Part :=
  match inside with
  | '#' :: c :: rest => .parameter isQuoted (c :: rest) .length []
  | _ =>
    let name :=
      match inside with
      | c :: _ =>
        if isNameChar c then inside.takeWhile isNameChar else [c]
      | [] => []
    let after := inside.drop name.length
    match parameterOperators.find? fun op => op.1.isPrefixOf after with
    | some (op, demand) => .parameter isQuoted name demand (after.drop op.length)
    | none => .parameter isQuoted name (if after.isEmpty then .value else .unknown) []

/-- Reads what follows a dollar sign: a part, and what comes after it. -/
def dollarPart (isQuoted : Bool) (cs : List Char) : Except SyntaxFault (Part × List Char) :=
  match cs with
  | '(' :: '(' :: more =>
    match splitClosed '(' ')' 1 more with
    | some (inside, rest) => .ok (.arithmetic isQuoted inside.dropLast, rest)
    | none => .error (.unterminated "arithmetic expression")
  | '(' :: more =>
    match splitClosed '(' ')' 0 more with
    | some (inside, rest) => .ok (.substitution isQuoted inside, rest)
    | none => .error (.unterminated "command substitution")
  | '{' :: more =>
    match splitClosed '{' '}' 0 more with
    | some (inside, rest) => .ok (bracedParameter isQuoted inside, rest)
    | none => .error (.unterminated "variable substitution")
  | c :: more =>
    if isNameStart c then
      let name := cs.takeWhile isNameChar
      .ok (.parameter isQuoted name .value [], cs.drop name.length)
    else if c.isDigit || "@*#?$!-".toList.contains c then
      .ok (.parameter isQuoted [c] .value [], more)
    else .ok (.text isQuoted ['$'], cs)
  | [] => .ok (.text isQuoted ['$'], [])

def endsWord (c : Char) : Bool :=
  isGap c || "\n;&|<>()".toList.contains c

/-- Reads a word, inside double quotes if `isQuoted`. -/
def readWord : (fuel : Nat) → (isQuoted : Bool) → List Char →
    Except SyntaxFault (ShellWord × List Char)
  | 0, _, cs => .ok ([], cs)
  | _ + 1, false, [] => .ok ([], [])
  | _ + 1, true, [] => .error (.unterminated "quoted string")
  | fuel + 1, isQuoted, c :: cs =>
    let continued (part : Part) (isQuoted : Bool) (rest : List Char) :=
      (readWord fuel isQuoted rest).map fun (parts, rest) => (part :: parts, rest)
    if c = '\'' && !isQuoted then
      let inside := cs.takeWhile (· != '\'')
      match cs.drop inside.length with
      | _ :: rest => continued (.text true inside) false rest
      | [] => .error (.unterminated "quoted string")
    else if c = '"' then continued (.text true []) (!isQuoted) cs
    else if c = '\\' then
      match cs with
      | '\n' :: rest => readWord fuel isQuoted rest
      | d :: rest =>
        if isQuoted && !("$\x60\"\\".toList.contains d) then
          continued (.text true ['\\', d]) isQuoted rest
        else continued (.text true [d]) isQuoted rest
      | [] => continued (.text true ['\\']) isQuoted []
    else if c = '$' then
      match dollarPart isQuoted cs with
      | .ok (part, rest) => continued part isQuoted rest
      | .error e => .error e
    else if c = '\x60' then
      let inside := cs.takeWhile (· != '\x60')
      match cs.drop inside.length with
      | _ :: rest => continued (.substitution isQuoted inside) isQuoted rest
      | [] => .error (.unterminated "backquote substitution")
    else if !isQuoted && endsWord c then .ok ([], c :: cs)
    else continued (.text isQuoted [c]) isQuoted cs

/-- The operators, longest first. -/
def operators : List (List Char) :=
  [['&', '&'], ['|', '|'], [';', ';'], [';'], ['&'], ['|'], ['('], [')'], ['\n']]

/-- The marks of redirections, longest first. -/
def redirections : List (List Char) :=
  [['>', '>'], ['>', '&'], ['<', '&'], ['>', '|'], ['>'], ['<']]

/-- The tokens of a program. -/
def tokensOf : (fuel : Nat) → (line : Nat) → List Char → Except SyntaxFault (List Token)
  | 0, _, _ => .ok []
  | _ + 1, _, [] => .ok []
  | fuel + 1, line, c :: cs =>
    if isGap c then tokensOf fuel line cs
    else if c = '\\' && cs.head? == some '\n' then tokensOf fuel (line + 1) cs.tail
    else if c = '#' then tokensOf fuel line (cs.dropWhile (· != '\n'))
    else
      let all := c :: cs
      let digits := all.takeWhile Char.isDigit
      let after := all.drop digits.length
      let isRedirection := after.head? == some '>' || after.head? == some '<'
      match if isRedirection then redirections.find? fun r => r.isPrefixOf after else none with
      | some mark =>
        let stream :=
          if digits.isEmpty then (if mark.head? == some '<' then 0 else 1)
          else digits.foldl (fun acc d => acc * 10 + (d.toNat - '0'.toNat)) 0
        (tokensOf fuel line (after.drop mark.length)).map fun ts => .redirect stream mark :: ts
      | none =>
        match operators.find? fun op => op.isPrefixOf all with
        | some op =>
          let line := if c = '\n' then line + 1 else line
          (tokensOf fuel line (all.drop op.length)).map fun ts => .operator op :: ts
        | none =>
          match readWord (all.length + 1) false all with
          | .error e => .error e
          | .ok (parts, rest) =>
            let used := all.length - rest.length
            let feeds := ((all.take used).filter (· = '\n')).length
            (tokensOf fuel (line + feeds) rest).map fun ts => .word parts line :: ts

end ScriptSuite.Shell
