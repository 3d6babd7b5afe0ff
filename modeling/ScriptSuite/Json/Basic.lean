/-!
JSON texts.

A value is written on one line, or with an entry a line and two blanks for each level.
Numbers are kept as they are to be written.
-/

namespace ScriptSuite

/-- A JSON value. The entries of an object are written in the order in which they stand. -/
inductive JsonValue where
  | null
  | bool (b : Bool)
  /-- A number, as it is to be written. -/
  | number (text : String)
  | string (s : String)
  | array (items : List JsonValue)
  | object (fields : List (String × JsonValue))

namespace JsonValue

def nat (n : Nat) : JsonValue := .number (toString n)

def strings (items : List String) : JsonValue := .array (items.map .string)

def hexDigit (n : Nat) : Char := Nat.digitChar (n % 16)

/-- A character inside a string. -/
def escapeChar (c : Char) : List Char :=
  let n := c.toNat
  if c = '"' then ['\\', '"']
  else if c = '\\' then ['\\', '\\']
  else if n = 8 then ['\\', 'b']
  else if n = 9 then ['\\', 't']
  else if n = 10 then ['\\', 'n']
  else if n = 12 then ['\\', 'f']
  else if n = 13 then ['\\', 'r']
  else if n < 32 then ['\\', 'u', '0', '0', hexDigit (n / 16), hexDigit n]
  else [c]

/-- A string between quotes. -/
def quote (s : String) : String :=
  String.ofList ('"' :: s.toList.flatMap escapeChar ++ ['"'])

mutual

/-- The value on one line. -/
def compact : JsonValue → String
  | .null => "null"
  | .bool b => toString b
  | .number text => text
  | .string s => quote s
  | .array items => "[" ++ compactItems items ++ "]"
  | .object fields => "\x7b" ++ compactFields fields ++ "\x7d"

def compactItems : List JsonValue → String
  | [] => ""
  | [v] => compact v
  | v :: rest => compact v ++ "," ++ compactItems rest

def compactFields : List (String × JsonValue) → String
  | [] => ""
  | [(k, v)] => quote k ++ ":" ++ compact v
  | (k, v) :: rest => quote k ++ ":" ++ compact v ++ "," ++ compactFields rest

end

/-- A line feed and the blanks of a level. -/
def feed (level : Nat) : String :=
  String.ofList ('\n' :: List.replicate (2 * level) ' ')

mutual

/-- The value with an entry a line, on that level. -/
def prettyAt (level : Nat) : JsonValue → String
  | .null => "null"
  | .bool b => toString b
  | .number text => text
  | .string s => quote s
  | .array [] => "[]"
  | .array (v :: rest) => "[" ++ prettyItems (level + 1) (v :: rest) ++ feed level ++ "]"
  | .object [] => "\x7b\x7d"
  | .object (f :: rest) => "\x7b" ++ prettyFields (level + 1) (f :: rest) ++ feed level ++ "\x7d"

def prettyItems (level : Nat) : List JsonValue → String
  | [] => ""
  | [v] => feed level ++ prettyAt level v
  | v :: rest => feed level ++ prettyAt level v ++ "," ++ prettyItems level rest

def prettyFields (level : Nat) : List (String × JsonValue) → String
  | [] => ""
  | [(k, v)] => feed level ++ quote k ++ ": " ++ prettyAt level v
  | (k, v) :: rest =>
    feed level ++ quote k ++ ": " ++ prettyAt level v ++ "," ++ prettyFields level rest

end

/-- The value with an entry a line. -/
def pretty (v : JsonValue) : String := prettyAt 0 v

end JsonValue
end ScriptSuite
