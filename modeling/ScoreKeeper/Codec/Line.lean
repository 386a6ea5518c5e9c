import ScoreKeeper.Checksum
import ScoreKeeper.Text.Integer

/-!
# ScoreKeeper — the line format of records

A score is written `<points>~<name>~<checksum>` and a pack line `<checksum>~<text>`, in decimal,
with no trailing newline. Decoding checks, in this order, that the line has at most 128 (scores)
or 256 (pack lines) bytes, that it has exactly 3 (or 2) fields, that the number fields and the
text field are well formed, and last that the stored checksum is the one the record computes to.
A points field is an optional `-` and one or more ASCII digits (leading zeros allowed) in the
32-bit range; a checksum field is one or more ASCII digits in the 64-bit range.
-/

namespace ScoreKeeper

/-- The most bytes of an encoded score line. -/
def scoreLineMaxBytes : Nat := 128

/-- The most bytes of an encoded pack line. -/
def noteLineMaxBytes : Nat := 256

/-- A line's fields, split at every delimiter. -/
def splitFields (line : String) : List String :=
  (line.toList.splitOn delimiter).map String.ofList

/-- Whether a text is one or more ASCII digits. -/
def isDigits (cs : List Char) : Bool :=
  !cs.isEmpty && cs.all Char.isDigit

/-- Whether a text is an optional `-` and then one or more ASCII digits. -/
def isSignedDigits : List Char → Bool
  | '-' :: ds => isDigits ds
  | ds => isDigits ds

/-- The points of a score field. -/
def readPoints (field : String) : Except CodecError Int32 :=
  if isSignedDigits field.toList then
    match Text.readInt (-Int.pow 2 31) (Int.pow 2 31 - 1) field.toList with
    | .ok v => .ok (Int32.ofInt v)
    | .error _ => .error (.invalidNumber .score field)
  else .error (.invalidNumber .score field)

/-- The stored checksum of a checksum field. -/
def readChecksum (field : String) : Except CodecError UInt64 :=
  if isDigits field.toList then
    match Text.readInt 0 (Int.pow 2 64 - 1) field.toList with
    | .ok v => .ok (UInt64.ofNat v.toNat)
    | .error _ => .error (.invalidNumber .checksum field)
  else .error (.invalidNumber .checksum field)

/-- The record when the stored checksum is the computed one. -/
def verifyChecksum {α : Type} (record : α) (stored computed : UInt64) : Except CodecError α :=
  if stored = computed then .ok record else .error (.checksumMismatch stored computed)

/-- Records written as one line each. -/
class LineRecord (α : Type) where
  maxBytes : Nat
  checksum : ChecksumKey → α → UInt64
  encode : ChecksumKey → α → String
  decode : ChecksumKey → String → Except CodecError α

/-- The line of a score. -/
def Score.encodeLine (k : ChecksumKey) (s : Score) : String :=
  toString s.points.toInt ++ "~" ++ s.name ++ "~" ++ toString (k.ofScore s).toNat

/-- Reads a score line. -/
def Score.decodeLine (k : ChecksumKey) (line : String) : Except CodecError Score :=
  if scoreLineMaxBytes < line.utf8ByteSize then .error (.lineTooLong line.utf8ByteSize scoreLineMaxBytes)
  else
    match splitFields line with
    | [p, n, c] => do
      let points ← readPoints p
      let s ← (Score.make? n points).mapError .invalidField
      let stored ← readChecksum c
      verifyChecksum s stored (k.ofScore s)
    | fs => .error (.fieldCount 3 fs.length)

/-- The line of a pack entry. -/
def Note.encodeLine (k : ChecksumKey) (n : Note) : String :=
  toString (k.ofNote n).toNat ++ "~" ++ n.text

/-- Reads a pack line. -/
def Note.decodeLine (k : ChecksumKey) (line : String) : Except CodecError Note :=
  if noteLineMaxBytes < line.utf8ByteSize then .error (.lineTooLong line.utf8ByteSize noteLineMaxBytes)
  else
    match splitFields line with
    | [c, t] => do
      let stored ← readChecksum c
      let n ← (Note.make? t).mapError .invalidField
      verifyChecksum n stored (k.ofNote n)
    | fs => .error (.fieldCount 2 fs.length)

instance : LineRecord Score where
  maxBytes := scoreLineMaxBytes
  checksum := ChecksumKey.ofScore
  encode := Score.encodeLine
  decode := Score.decodeLine

instance : LineRecord Note where
  maxBytes := noteLineMaxBytes
  checksum := ChecksumKey.ofNote
  encode := Note.encodeLine
  decode := Note.decodeLine

end ScoreKeeper
