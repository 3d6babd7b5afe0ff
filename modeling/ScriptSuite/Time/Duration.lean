import ScriptSuite.Text.Number

/-!
Lengths of time.

A length is counted in nanoseconds. It is shown in the largest of the units second,
millisecond, microsecond and nanosecond that it fills.
-/

namespace ScriptSuite

/-- A length of time in nanoseconds. -/
structure Duration where
  nanoseconds : Nat
  deriving DecidableEq, Repr, Inhabited

namespace Duration

def zero : Duration := ⟨0⟩

def ofSeconds (n : Nat) : Duration := ⟨n * 1000000000⟩

def ofMilliseconds (n : Nat) : Duration := ⟨n * 1000000⟩

/-- A unit in which a length is shown. -/
inductive Scale where
  | second
  | milli
  | micro
  | nano
  deriving DecidableEq, Repr

/-- How many powers of ten of nanoseconds a unit has. -/
def Scale.power : Scale → Nat
  | .second => 9
  | .milli => 6
  | .micro => 3
  | .nano => 0

def Scale.sign : Scale → String
  | .second => "s"
  | .milli => "ms"
  | .micro => "µs"
  | .nano => "ns"

/-- The largest unit that a length fills; a length below a nanosecond fills none and
is shown in nanoseconds. -/
def scale (d : Duration) : Scale :=
  if 1000000000 ≤ d.nanoseconds then .second
  else if 1000000 ≤ d.nanoseconds then .milli
  else if 1000 ≤ d.nanoseconds then .micro
  else .nano

/-- The length with two decimal places. -/
def rounded (d : Duration) : String :=
  String.ofList (Text.withPlaces 2 d.nanoseconds (Text.tenTo d.scale.power)) ++ d.scale.sign

/-- The length with as many decimal places as it needs. -/
def exact (d : Duration) : String :=
  String.ofList (Text.shortestPlaces d.scale.power d.nanoseconds) ++ d.scale.sign

/-- The length in seconds, with as many decimal places as it needs and at least one. -/
def seconds (d : Duration) : String :=
  let text := Text.shortestPlaces 9 d.nanoseconds
  String.ofList (if text.contains '.' then text else text ++ ['.', '0'])

/-- The length in seconds with three decimal places. -/
def secondsToMillis (d : Duration) : String :=
  String.ofList (Text.withPlaces 3 d.nanoseconds (Text.tenTo 9))

end Duration
end ScriptSuite
