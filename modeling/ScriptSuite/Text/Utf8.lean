/-!
UTF-8, and reading bytes that need not be UTF-8.

`decodeUnits` reads bytes one at a time and yields a character for each well-formed
sequence and a gap for each maximal part of a malformed one. Lenient reading
(`decodeLossy`) writes the replacement character for a gap, strict reading
(`decode?`) refuses the text.
-/

namespace ScriptSuite

/-- The content of a file or stream. -/
abbrev Bytes := List UInt8

namespace Text

/-- The UTF-8 form of a text. -/
def encode (cs : List Char) : Bytes :=
  cs.flatMap String.utf8EncodeChar

/-- What has been read of a sequence that is not complete: the value so far, the
number of bytes that are missing, and the range that the next one must lie in. -/
inductive Pending where
  | idle
  | within (value missing low high : Nat)
  deriving DecidableEq, Repr

/-- What a byte means at the start of a sequence: a character or a gap, or nothing
yet and a sequence to be continued. -/
def leadByte (b : UInt8) : List (Option Char) × Pending :=
  let n := b.toNat
  if n < 0x80 then ([some (Char.ofNat n)], .idle)
  else if 0xC2 ≤ n && n ≤ 0xDF then ([], .within (n - 0xC0) 1 0x80 0xBF)
  else if n = 0xE0 then ([], .within 0 2 0xA0 0xBF)
  else if n = 0xED then ([], .within 0xD 2 0x80 0x9F)
  else if 0xE1 ≤ n && n ≤ 0xEF then ([], .within (n - 0xE0) 2 0x80 0xBF)
  else if n = 0xF0 then ([], .within 0 3 0x90 0xBF)
  else if 0xF1 ≤ n && n ≤ 0xF3 then ([], .within (n - 0xF0) 3 0x80 0xBF)
  else if n = 0xF4 then ([], .within 4 3 0x80 0x8F)
  else ([none], .idle)

/-- What a byte means after `pending`. A byte that cannot continue the sequence ends
it with a gap and starts anew. -/
def nextByte (pending : Pending) (b : UInt8) : List (Option Char) × Pending :=
  match pending with
  | .idle => leadByte b
  | .within value missing low high =>
    if low ≤ b.toNat && b.toNat ≤ high then
      let value := value * 64 + (b.toNat - 0x80)
      if missing ≤ 1 then ([some (Char.ofNat value)], .idle)
      else ([], .within value (missing - 1) 0x80 0xBF)
    else
      let (units, rest) := leadByte b
      (none :: units, rest)

/-- The characters of a byte sequence that follows `pending`, a gap for each
malformed part. -/
def decodeFrom : Pending → Bytes → List (Option Char)
  | .idle, [] => []
  | .within .., [] => [none]
  | pending, b :: bs =>
    let (units, rest) := nextByte pending b
    units ++ decodeFrom rest bs

/-- The characters of a byte sequence, a gap for each malformed part. -/
def decodeUnits (bs : Bytes) : List (Option Char) :=
  decodeFrom .idle bs

/-- The mark for a malformed part. -/
def replacement : Char := Char.ofNat 0xFFFD

/-- Reads bytes leniently: each malformed part becomes one replacement character. This is no inverse
of `encode` on bytes that are no text, and different bytes may be read alike. -/
def decodeLossy (bs : Bytes) : List Char :=
  (decodeUnits bs).map fun unit => unit.getD replacement

/-- Reads bytes strictly: nothing for bytes that are not UTF-8. Where it gives a text, reading
leniently gives the same. -/
def decode? (bs : Bytes) : Option (List Char) :=
  (decodeUnits bs).mapM id

def bytesOf (s : String) : Bytes :=
  encode s.toList

/-- The string that bytes are read as, leniently. -/
def stringOf (bs : Bytes) : String :=
  String.ofList (decodeLossy bs)

end Text
end ScriptSuite
