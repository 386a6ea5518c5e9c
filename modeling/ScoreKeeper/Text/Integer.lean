/-!
# ScoreKeeper — integers read from text

Command-line values and configuration numbers are read by the usual rules for machine integers:
an optional `+` (or `-` where the type is signed) and then decimal digits, scanned from the left.
The first fault met decides the error: a character that is not a digit, or a value that leaves the
type's range (too large above it, too small below it).
-/

namespace ScoreKeeper.Text

/-- Why a text is not an integer of the wanted type. A lone sign is an invalid digit. -/
inductive IntError where
  | empty
  | invalidDigit
  | tooLarge
  | tooSmall
  deriving DecidableEq, Repr

/-- The message of an integer error. -/
def IntError.message : IntError → String
  | .empty => "cannot parse integer from empty string"
  | .invalidDigit => "invalid digit found in string"
  | .tooLarge => "number too large to fit in target type"
  | .tooSmall => "number too small to fit in target type"

/-- The value of a decimal digit character. -/
def digitValue? (c : Char) : Option Nat :=
  if '0' ≤ c && c ≤ '9' then some (c.toNat - '0'.toNat) else none

/-- Scans digits from the left; `limit` bounds the magnitude, and `excess` is the error past it. -/
def scanDigits (limit : Nat) (excess : IntError) : Nat → List Char → Except IntError Nat
  | acc, [] => .ok acc
  | acc, c :: rest =>
    match digitValue? c with
    | none => .error .invalidDigit
    | some d =>
      let next := acc * 10 + d
      if limit < next then .error excess else scanDigits limit excess next rest

/-- Reads an integer in `[low, high]` (with `low ≤ 0 ≤ high`); a `-` is a sign only if `low < 0`. -/
def readInt (low high : Int) (text : List Char) : Except IntError Int :=
  match text with
  | [] => .error .empty
  | ['+'] => .error .invalidDigit
  | ['-'] => .error .invalidDigit
  | '+' :: rest => (scanDigits high.toNat .tooLarge 0 rest).map Int.ofNat
  | '-' :: rest =>
    if low < 0 then (scanDigits low.natAbs .tooSmall 0 rest).map fun n => -Int.ofNat n
    else (scanDigits high.toNat .tooLarge 0 text).map Int.ofNat
  | _ => (scanDigits high.toNat .tooLarge 0 text).map Int.ofNat

/-- Reads an unsigned 64-bit integer. -/
def readU64 (text : String) : Except IntError Nat :=
  (readInt 0 (Int.pow 2 64 - 1) text.toList).map Int.toNat

/-- Reads a signed 64-bit integer. -/
def readI64 (text : String) : Except IntError Int :=
  readInt (-Int.pow 2 63) (Int.pow 2 63 - 1) text.toList

/-- The decimal digits of a natural number. -/
def decimal (n : Nat) : String :=
  toString n

end ScoreKeeper.Text
