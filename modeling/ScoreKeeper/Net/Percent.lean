import ScoreKeeper.Text.Utf8
import ScoreKeeper.Text.Hex

/-!
# ScoreKeeper — percent-encoding

Parts of a URL keep some characters and write the others as `%XX`, one per UTF-8 byte, with
uppercase hex digits. Every set below encodes the C0 controls, DEL and every non-ASCII
character, and adds ASCII characters of its own: the fragment set the space, `"`, `<`, `>` and the
backquote; the query set the space, `"`, `#`, `<`, `>`; the query of a special scheme also `'`;
the path set the query set with `?`, the backquote, `{` and `}`; the user-information set the path
set with `/ : ; = @ [ \ ] ^ |`. Decoding turns each `%` followed by two hex digits into its
byte and leaves every other byte as it is.
-/

namespace ScoreKeeper.Net

/-- The parts of a URL, by the characters each one percent-encodes. -/
inductive EncodeSet where
  | controls
  | fragment
  | query
  | specialQuery
  | path
  | userinfo
  deriving DecidableEq, Repr

/-- The ASCII characters a set encodes beyond the controls. -/
def EncodeSet.extra : EncodeSet → List Char
  | .controls => []
  | .fragment => [' ', '"', '<', '>', '`']
  | .query => [' ', '"', '#', '<', '>']
  | .specialQuery => [' ', '"', '#', '<', '>', '\'']
  | .path => [' ', '"', '#', '<', '>', '?', '`', '{', '}']
  | .userinfo => [' ', '"', '#', '<', '>', '?', '`', '{', '}', '/', ':', ';', '=', '@', '[', '\\',
      ']', '^', '|']

/-- Whether a set encodes a character. -/
def EncodeSet.encodes (s : EncodeSet) (c : Char) : Bool :=
  c.toNat < 0x20 || 0x7E < c.toNat || s.extra.contains c

/-- The uppercase hex digit of a value below 16. -/
def upperHex (n : Nat) : Char :=
  if n < 10 then Char.ofNat ('0'.toNat + n) else Char.ofNat ('A'.toNat + n - 10)

/-- The `%XX` form of one byte. -/
def percentByte (b : UInt8) : List Char :=
  ['%', upperHex (b.toNat / 16), upperHex (b.toNat % 16)]

/-- One character, encoded if the set says so. -/
def EncodeSet.encodeChar (s : EncodeSet) (c : Char) : List Char :=
  if s.encodes c then (String.utf8EncodeChar c).flatMap percentByte else [c]

/-- Characters, encoded by a set. -/
def EncodeSet.encode (s : EncodeSet) (cs : List Char) : String :=
  String.ofList (cs.flatMap s.encodeChar)

/-- The value of a byte that is a hex digit. -/
def hexByteValue? (b : UInt8) : Option Nat :=
  Text.hexDigitValue? (Char.ofNat b.toNat)

/-- The bytes of a text with every `%XX` decoded. -/
def percentDecode (bytes : List UInt8) : List UInt8 :=
  match bytes with
  | [] => []
  | b :: h :: l :: more =>
    if b = 0x25 then
      match hexByteValue? h, hexByteValue? l with
      | some hv, some lv => UInt8.ofNat (hv * 16 + lv) :: percentDecode more
      | _, _ => b :: percentDecode (h :: l :: more)
    else b :: percentDecode (h :: l :: more)
  | b :: rest => b :: percentDecode rest
termination_by bytes.length

end ScoreKeeper.Net
