/-!
Decimal numbers in text.

Reading is strict: a number is digits only, where the caller allows it after one sign.
Writing with places rounds to the nearest, a half to the even neighbour.
-/

namespace ScriptSuite.Text

/-- Words of 32 bits hold the numbers below this one. -/
def limit32 : Nat := 4294967296

/-- Words of 64 bits hold the numbers below this one. -/
def limit64 : Nat := 18446744073709551616

/-- Words of 64 bits with a sign hold the numbers from the negative of this one up to it,
itself left out. -/
def signedLimit64 : Nat := 9223372036854775808

def tenTo (n : Nat) : Nat := Nat.pow 10 n

def digit? (c : Char) : Option Nat :=
  if '0' ≤ c && c ≤ '9' then some (c.toNat - '0'.toNat) else none

/-- Appends the digits of `cs` to `value`. -/
def digitsFrom (value : Nat) : List Char → Option Nat
  | [] => some value
  | c :: cs => (digit? c).bind fun d => digitsFrom (value * 10 + d) cs

/-- The value of a text of decimal digits; the empty text has none. -/
def digits? (cs : List Char) : Option Nat :=
  if cs.isEmpty then none else digitsFrom 0 cs

/-- Digits after at most one plus sign. -/
def natural? (cs : List Char) : Option Nat :=
  match cs with
  | '+' :: rest => digits? rest
  | _ => digits? cs

/-- Digits after at most one sign. -/
def integer? (cs : List Char) : Option Int :=
  match cs with
  | '-' :: rest => (digits? rest).map fun n => -(n : Int)
  | _ => (natural? cs).map fun n => (n : Int)

def digitsOf (n : Nat) : List Char :=
  Nat.toDigits 10 n

/-- The digits of a number, zeros in front up to `width`. -/
def padded (width n : Nat) : List Char :=
  let ds := digitsOf n
  List.replicate (width - ds.length) '0' ++ ds

/-- `n / d` rounded to the nearest whole number, a half to the even one. -/
def roundDiv (n d : Nat) : Nat :=
  let q := n / d
  let r := n % d
  if d < 2 * r || (2 * r = d && q % 2 = 1) then q + 1 else q

/-- `n / d` with the given number of decimal places. -/
def withPlaces (places n d : Nat) : List Char :=
  let scaled := roundDiv (n * tenTo places) d
  digitsOf (scaled / tenTo places) ++ '.' :: padded places (scaled % tenTo places)

/-- `n / tenTo places` with no zeros at the end, and no point before nothing. -/
def shortestPlaces (places n : Nat) : List Char :=
  let fraction := (padded places (n % tenTo places)).reverse.dropWhile (· == '0')
  let whole := digitsOf (n / tenTo places)
  if places = 0 || fraction.isEmpty then whole else whole ++ '.' :: fraction.reverse

end ScriptSuite.Text
