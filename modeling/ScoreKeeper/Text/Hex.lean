/-!
# ScoreKeeper — bytes as hex

Bytes written as pairs of hex digits, two per byte, high digit first. Reading takes either case;
writing gives lowercase.
-/

namespace ScoreKeeper.Text

/-- The value of a hex digit of either case. -/
def hexDigitValue? (c : Char) : Option Nat :=
  if '0' ≤ c && c ≤ '9' then some (c.toNat - '0'.toNat)
  else if 'a' ≤ c && c ≤ 'f' then some (c.toNat - 'a'.toNat + 10)
  else if 'A' ≤ c && c ≤ 'F' then some (c.toNat - 'A'.toNat + 10)
  else none

/-- Reads pairs of hex digits; an odd count or another character fails. -/
def readHex : List Char → Option (List UInt8)
  | [] => some []
  | [_] => none
  | a :: b :: rest => do
    let hi ← hexDigitValue? a
    let lo ← hexDigitValue? b
    let bs ← readHex rest
    pure (UInt8.ofNat (hi * 16 + lo) :: bs)

/-- The lowercase hex digit of a value below 16. -/
def hexDigitChar (n : Nat) : Char :=
  if n < 10 then Char.ofNat ('0'.toNat + n) else Char.ofNat ('a'.toNat + n - 10)

/-- Bytes as lowercase hex pairs. -/
def hexOfBytes (bytes : List UInt8) : String :=
  String.ofList (bytes.flatMap fun b => [hexDigitChar (b.toNat / 16), hexDigitChar (b.toNat % 16)])

end ScoreKeeper.Text
