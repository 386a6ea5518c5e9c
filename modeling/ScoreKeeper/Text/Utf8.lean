/-!
# ScoreKeeper — UTF-8 bytes of text

Stored documents are bytes. Writing a text stores its UTF-8 encoding (`utf8`); reading bytes back
decodes them leniently (`decodeLossy`): every well-formed sequence gives its character and every
maximal ill-formed prefix of a sequence gives one replacement character U+FFFD, as the Unicode
standard recommends. Decoding a text's own encoding gives the text back.
-/

namespace ScoreKeeper.Text

/-- The UTF-8 encoding of a text. -/
def utf8 (s : String) : List UInt8 :=
  s.toList.flatMap String.utf8EncodeChar

/-- The number of bytes of a text's UTF-8 encoding. -/
def byteLength (s : String) : Nat :=
  s.utf8ByteSize

/-- Whether a byte continues a multi-byte sequence. -/
def isContinuation (b : UInt8) : Bool :=
  0x80 ≤ b && b ≤ 0xBF

/-- The character U+FFFD that stands for ill-formed bytes. -/
def replacement : Char := '�'

/-- Whether the second byte of a three-byte sequence is allowed after its lead byte: no overlong
form after `0xE0` and no surrogate after `0xED`. -/
def thirdsSecondOk (lead b : UInt8) : Bool :=
  if lead = 0xE0 then 0xA0 ≤ b && b ≤ 0xBF
  else if lead = 0xED then 0x80 ≤ b && b ≤ 0x9F
  else isContinuation b

/-- Whether the second byte of a four-byte sequence is allowed after its lead byte: no overlong
form after `0xF0` and nothing above U+10FFFF after `0xF4`. -/
def fourthsSecondOk (lead b : UInt8) : Bool :=
  if lead = 0xF0 then 0x90 ≤ b && b ≤ 0xBF
  else if lead = 0xF4 then 0x80 ≤ b && b ≤ 0x8F
  else isContinuation b

/-- The character of a decoded code point. -/
def charOf (n : Nat) : Char :=
  Char.ofNat n

/-- Decodes bytes, one replacement character for each maximal ill-formed prefix. -/
def decodeLossy : List UInt8 → List Char
  | [] => []
  | b :: rest =>
    if b < 0x80 then
      charOf b.toNat :: decodeLossy rest
    else if 0xC2 ≤ b && b ≤ 0xDF then
      match h1 : rest with
      | c :: rest1 =>
        if isContinuation c then
          charOf ((b.toNat % 0x20) * 0x40 + c.toNat % 0x40) :: decodeLossy rest1
        else replacement :: decodeLossy rest
      | [] => [replacement]
    else if 0xE0 ≤ b && b ≤ 0xEF then
      match h1 : rest with
      | c1 :: rest1 =>
        if thirdsSecondOk b c1 then
          match h2 : rest1 with
          | c2 :: rest2 =>
            if isContinuation c2 then
              charOf ((b.toNat % 0x10) * 0x1000 + (c1.toNat % 0x40) * 0x40 + c2.toNat % 0x40)
                :: decodeLossy rest2
            else replacement :: decodeLossy rest1
          | [] => [replacement]
        else replacement :: decodeLossy rest
      | [] => [replacement]
    else if 0xF0 ≤ b && b ≤ 0xF4 then
      match h1 : rest with
      | c1 :: rest1 =>
        if fourthsSecondOk b c1 then
          match h2 : rest1 with
          | c2 :: rest2 =>
            if isContinuation c2 then
              match h3 : rest2 with
              | c3 :: rest3 =>
                if isContinuation c3 then
                  charOf ((b.toNat % 0x08) * 0x40000 + (c1.toNat % 0x40) * 0x1000
                    + (c2.toNat % 0x40) * 0x40 + c3.toNat % 0x40) :: decodeLossy rest3
                else replacement :: decodeLossy rest2
              | [] => [replacement]
            else replacement :: decodeLossy rest1
          | [] => [replacement]
        else replacement :: decodeLossy rest
      | [] => [replacement]
    else replacement :: decodeLossy rest
termination_by bytes => bytes.length
decreasing_by all_goals (subst_vars; simp; try omega)

/-- The text of some bytes, decoded leniently. -/
def textOfBytes (bytes : List UInt8) : String :=
  String.ofList (decodeLossy bytes)

/-- Where bytes stop being UTF-8, as the standard library's `Utf8Error` reports it: the length of
the longest well-formed prefix, and the length of the ill-formed sequence after it, or none when
the bytes end inside a character. -/
structure Utf8Error where
  validUpTo : Nat
  errorLen : Option Nat
  deriving DecidableEq, Repr

/-- The error's text, as the standard library displays it. -/
def Utf8Error.message (e : Utf8Error) : String :=
  match e.errorLen with
  | some n => s!"invalid utf-8 sequence of {n} bytes from index {e.validUpTo}"
  | none => s!"incomplete utf-8 byte sequence from index {e.validUpTo}"

/-- The same error, `n` bytes further on. -/
def Utf8Error.after (n : Nat) (e : Utf8Error) : Utf8Error :=
  { e with validUpTo := n + e.validUpTo }

/-- The first place bytes stop being UTF-8, checking one character at a time as strict decoding
does: a lead byte that starts no character, or a following byte out of range for it, ends the
check with the bytes of the character read so far (at least one); bytes that end inside a
character end it with no length. -/
def utf8Error? : List UInt8 → Option Utf8Error
  | [] => none
  | b :: rest =>
    if b < 0x80 then (utf8Error? rest).map (·.after 1)
    else if 0xC2 ≤ b && b ≤ 0xDF then
      match rest with
      | [] => some ⟨0, none⟩
      | c :: rest1 =>
        if isContinuation c then (utf8Error? rest1).map (·.after 2) else some ⟨0, some 1⟩
    else if 0xE0 ≤ b && b ≤ 0xEF then
      match rest with
      | [] => some ⟨0, none⟩
      | c1 :: rest1 =>
        if thirdsSecondOk b c1 then
          match rest1 with
          | [] => some ⟨0, none⟩
          | c2 :: rest2 =>
            if isContinuation c2 then (utf8Error? rest2).map (·.after 3) else some ⟨0, some 2⟩
        else some ⟨0, some 1⟩
    else if 0xF0 ≤ b && b ≤ 0xF4 then
      match rest with
      | [] => some ⟨0, none⟩
      | c1 :: rest1 =>
        if fourthsSecondOk b c1 then
          match rest1 with
          | [] => some ⟨0, none⟩
          | c2 :: rest2 =>
            if isContinuation c2 then
              match rest2 with
              | [] => some ⟨0, none⟩
              | c3 :: rest3 =>
                if isContinuation c3 then (utf8Error? rest3).map (·.after 4)
                else some ⟨0, some 3⟩
            else some ⟨0, some 2⟩
        else some ⟨0, some 1⟩
    else some ⟨0, some 1⟩

/-- Whether bytes are well-formed UTF-8, so that decoding them replaces nothing. -/
def isWellFormed (bytes : List UInt8) : Bool :=
  utf8 (textOfBytes bytes) == bytes

end ScoreKeeper.Text
