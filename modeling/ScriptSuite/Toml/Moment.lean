import ScriptSuite.Text.Blank
import ScriptSuite.Time.Calendar

/-!
Points in time in TOML texts: a date, a time of day, or both, and with both there may be a
distance from universal time.

There is one spelling for each: a capital letter stands between date and time, fractions of
a second end with a digit that counts, and a distance of zero with digits is positive.
-/

namespace ScriptSuite.Toml

/-- A time of day. The second may be a leap second; of fractions there are nine digits. -/
structure DayTime where
  hour : Nat
  minute : Nat
  second : Nat
  nanosecond : Nat
  deriving DecidableEq, Repr

/-- How far a time of day is from universal time. -/
inductive Offset where
  | none
  | universal
  | shifted (isBehind : Bool) (minutes : Nat)
  deriving DecidableEq, Repr

/-- A point in time, as far as it is given. -/
inductive Moment where
  | date (d : Calendar.Date)
  | time (t : DayTime)
  | both (d : Calendar.Date) (t : DayTime) (offset : Offset)
  deriving DecidableEq, Repr

/-! ### Writing -/

def dateText (d : Calendar.Date) : List Char :=
  Text.padded 4 d.year ++ '-' :: Text.padded 2 d.month ++ '-' :: Text.padded 2 d.day

namespace DayTime

/-- The text of the fraction of the second. -/
def fractionText (t : DayTime) : List Char :=
  if t.nanosecond = 0 then []
  else '.' :: ((Text.padded 9 t.nanosecond).reverse.dropWhile (· = '0')).reverse

/-- The text of a time of day. -/
def text (t : DayTime) : List Char :=
  Text.padded 2 t.hour ++ ':' :: Text.padded 2 t.minute ++ ':' :: Text.padded 2 t.second
    ++ t.fractionText

end DayTime

/-- The text of a distance from universal time. -/
def Offset.text : Offset → List Char
  | none => []
  | universal => ['Z']
  | shifted isBehind minutes =>
    (if isBehind then '-' else '+') :: Text.padded 2 (minutes / 60)
      ++ ':' :: Text.padded 2 (minutes % 60)

/-- The text of a point in time. -/
def Moment.text : Moment → List Char
  | date d => dateText d
  | time t => t.text
  | both d t offset => dateText d ++ 'T' :: t.text ++ offset.text

/-! ### Reading -/

/-- Reads a number of exactly `size` digits that is at most `most`. -/
def readDigits? (size most : Nat) (cs : List Char) : Option (Nat × List Char) :=
  if cs.length < size then none
  else
    ((Text.digits? (cs.take size)).filter (· ≤ most)).map fun n => (n, cs.drop size)

/-- Drops a sign that has to stand in front. -/
def dropSign? (sign : Char) (cs : List Char) : Option (List Char) :=
  if cs.head? = some sign then some cs.tail else none

def readDate? (cs : List Char) : Option (Calendar.Date × List Char) := do
  let (year, cs) ← readDigits? 4 9999 cs
  let (month, cs) ← readDigits? 2 12 (← dropSign? '-' cs)
  let (day, cs) ← readDigits? 2 (Calendar.daysIn year month) (← dropSign? '-' cs)
  if month = 0 || day = 0 then none else return (⟨year, month, day⟩, cs)

/-- Reads the fraction of a second: its nanoseconds. Digits after the ninth do not count. -/
def readFraction (cs : List Char) : Nat × List Char :=
  match cs with
  | '.' :: rest =>
    let digits := rest.takeWhile Char.isDigit
    match Text.digits? (digits.take 9) with
    | some n => (n * Text.tenTo (9 - digits.length), rest.dropWhile Char.isDigit)
    | none => (0, cs)
  | _ => (0, cs)

def readTime? (cs : List Char) : Option (DayTime × List Char) := do
  let (hour, cs) ← readDigits? 2 23 cs
  let (minute, cs) ← readDigits? 2 59 (← dropSign? ':' cs)
  let (second, cs) ← readDigits? 2 60 (← dropSign? ':' cs)
  let (nanosecond, cs) := readFraction cs
  return (⟨hour, minute, second, nanosecond⟩, cs)

/-- Reads a distance from universal time, if there is one. -/
def readOffset (cs : List Char) : Offset × List Char :=
  let shifted? (isBehind : Bool) (rest : List Char) : Option (Offset × List Char) := do
    let (hours, rest) ← readDigits? 2 23 rest
    let (minutes, rest) ← readDigits? 2 59 (← dropSign? ':' rest)
    let distance := hours * 60 + minutes
    return (.shifted (isBehind && distance != 0) distance, rest)
  let found? : Option (Offset × List Char) :=
    match cs with
    | 'Z' :: rest => some (.universal, rest)
    | 'z' :: rest => some (.universal, rest)
    | '+' :: rest => shifted? false rest
    | '-' :: rest => shifted? true rest
    | _ => none
  found?.getD (.none, cs)

/-- Whether a character may stand between a date and a time. -/
def isDateEnd (c : Char) : Bool := c = 'T' || c = 't' || c = ' '

/-- Reads a point in time. A blank after a date ends it unless a time follows. -/
def readMoment? (cs : List Char) : Option (Moment × List Char) :=
  match readDate? cs with
  | some (d, rest) =>
    match (if rest.head?.any isDateEnd then readTime? rest.tail else none) with
    | some (t, rest) =>
      let (offset, rest) := readOffset rest
      some (.both d t offset, rest)
    | none => some (.date d, rest)
  | none => (readTime? cs).map fun (t, rest) => (.time t, rest)

/-- The text that a text of a point in time is brought to. -/
def normalMoment? (s : String) : Option String :=
  match readMoment? s.toList with
  | some (m, []) => some (String.ofList m.text)
  | _ => none

example : normalMoment? "1979-05-27 07:32:00.500z" = some "1979-05-27T07:32:00.5Z" := by decide
example : normalMoment? "2024-02-29" = some "2024-02-29" ∧ normalMoment? "2023-02-29" = none := by
  decide
example : normalMoment? "23:59:60-00:00" = none ∧
    normalMoment? "2023-12-31t23:59:60-00:00" = some "2023-12-31T23:59:60+00:00" := by decide

end ScriptSuite.Toml
