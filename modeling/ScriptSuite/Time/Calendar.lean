import ScriptSuite.Time.Instant

/-!
Dates.

The civil date of a day is found by counting days in periods of four hundred years,
which all have the same length.
-/

namespace ScriptSuite.Calendar

structure Date where
  year : Nat
  month : Nat
  day : Nat
  deriving DecidableEq, Repr

/-- The date of a day that is counted from the first of January 1970. Years are taken to
start in March, so that a leap day ends its year. -/
def dateOf (days : Nat) : Date :=
  let shifted := days + 719468
  let era := shifted / 146097
  let dayOfEra := shifted % 146097
  let yearOfEra := (dayOfEra - dayOfEra / 1460 + dayOfEra / 36524 - dayOfEra / 146096) / 365
  let dayOfYear := dayOfEra - (365 * yearOfEra + yearOfEra / 4 - yearOfEra / 100)
  let shiftedMonth := (5 * dayOfYear + 2) / 153
  let day := dayOfYear - (153 * shiftedMonth + 2) / 5 + 1
  let month := if shiftedMonth < 10 then shiftedMonth + 3 else shiftedMonth - 9
  let year := yearOfEra + era * 400
  ⟨if month ≤ 2 then year + 1 else year, month, day⟩

def isLeap (year : Nat) : Bool := year % 4 = 0 && (year % 100 != 0 || year % 400 = 0)

def daysIn (year month : Nat) : Nat :=
  if month = 2 then (if isLeap year then 29 else 28)
  else if [4, 6, 9, 11].contains month then 30
  else 31

/-- The stamp of a point in time that is counted from the start of 1970: date, time of
day and milliseconds. -/
def stamp (t : Instant) : String :=
  let millis := t.nanoseconds / 1000000
  let secs := millis / 1000
  let date := dateOf (secs / 86400)
  let ofDay := secs % 86400
  String.ofList <|
    Text.padded 4 date.year ++ Text.padded 2 date.month ++ Text.padded 2 date.day ++ ['-']
      ++ Text.padded 2 (ofDay / 3600) ++ Text.padded 2 (ofDay / 60 % 60)
      ++ Text.padded 2 (ofDay % 60) ++ ['.'] ++ Text.padded 3 (millis % 1000)

example : dateOf 0 = ⟨1970, 1, 1⟩ ∧ dateOf 11016 = ⟨2000, 2, 29⟩ := by decide
example : dateOf 19722 = ⟨2023, 12, 31⟩ := by decide

end ScriptSuite.Calendar
