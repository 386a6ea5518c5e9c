import ScoreKeeper.Json.Binary64
import ScoreKeeper.Text.Utf8
import ScoreKeeper.Text.Quoted

/-!
# ScoreKeeper — reading records from JSON text

A record of named fields is read from JSON text in one pass: either from an object, whose members
may come in any order and whose other members are skipped after checking their syntax, or from an
array holding the fields in order. A field is text or a 32-bit integer.

Errors say what went wrong and where the reader stood, because they are part of the answer:

* **Syntax** and **end of input** errors name the line (from 1) and the column (in bytes) where
  the reader stood, or one byte further where it had only looked ahead.
* **Data** errors (a value of the wrong type or out of range, a missing or repeated field, a
  wrong number of array items) are placed where the reader stood after the value, or after the
  closing bracket of the record when they concern the record as a whole.
* A record whose fields are refused after reading (by the record's own checks) reports the
  refusal without a place, and text after the record is refused only then.

Numbers are read as the reader does: integers up to 64 bits, a negative one down to `-2 ^ 63`;
others, `-0` included, as binary64 numbers (`Binary64`).
-/

namespace ScoreKeeper.JsonRecord

open Binary64

/-- Why JSON text was refused. -/
inductive Problem where
  | eofList
  | eofObject
  | eofString
  | eofValue
  | expectedColon
  | expectedListCommaOrEnd
  | expectedObjectCommaOrEnd
  | expectedIdent
  | expectedValue
  | invalidEscape
  | invalidNumber
  | numberOutOfRange
  | controlCharacter
  | keyMustBeString
  | loneSurrogate
  | trailingComma
  | trailingCharacters
  | unexpectedEndOfHexEscape
  | data (message : String)
  deriving DecidableEq, Repr

/-- The wording of a problem. -/
def Problem.message : Problem → String
  | .eofList => "EOF while parsing a list"
  | .eofObject => "EOF while parsing an object"
  | .eofString => "EOF while parsing a string"
  | .eofValue => "EOF while parsing a value"
  | .expectedColon => "expected `:`"
  | .expectedListCommaOrEnd => "expected `,` or `]`"
  | .expectedObjectCommaOrEnd => "expected `,` or `\x7d`"
  | .expectedIdent => "expected ident"
  | .expectedValue => "expected value"
  | .invalidEscape => "invalid escape"
  | .invalidNumber => "invalid number"
  | .numberOutOfRange => "number out of range"
  | .controlCharacter => "control character (\\u0000-\\u001F) found while parsing a string"
  | .keyMustBeString => "key must be a string"
  | .loneSurrogate => "lone leading surrogate in hex escape"
  | .trailingComma => "trailing comma"
  | .trailingCharacters => "trailing characters"
  | .unexpectedEndOfHexEscape => "unexpected end of hex escape"
  | .data m => m

/-- The class of a problem: `Eof` for text that ended early, `Data` for values that do not fit,
`Syntax` for the rest. -/
def Problem.category : Problem → String
  | .eofList | .eofObject | .eofString | .eofValue => "Eof"
  | .data _ => "Data"
  | _ => "Syntax"

/-- A refusal and, when it has one, its line and column. -/
structure ReadError where
  problem : Problem
  position : Option (Nat × Nat)
  deriving DecidableEq, Repr

/-- The wording of a refusal, with its place when it has one. -/
def ReadError.message (e : ReadError) : String :=
  e.problem.message ++ match e.position with
    | some (line, column) => " at line " ++ toString line ++ " column " ++ toString column
    | none => ""

/-- A place in the text: the bytes left and how many were read. -/
structure Cursor where
  text : List UInt8
  rest : List UInt8
  index : Nat

/-- The next byte. -/
def Cursor.peek (c : Cursor) : Option UInt8 :=
  c.rest.head?

/-- The cursor past one byte. -/
def Cursor.eat (c : Cursor) : Cursor :=
  ⟨c.text, c.rest.drop 1, c.index + 1⟩

/-- The cursor past `n` bytes. -/
def Cursor.skip (c : Cursor) (n : Nat) : Cursor :=
  ⟨c.text, c.rest.drop n, c.index + n⟩

/-- The line, from 1, and the column, in bytes from 0, of a byte offset. -/
def positionOf (text : List UInt8) (i : Nat) : Nat × Nat :=
  let before := text.take i
  let lineStart := match before.reverse.idxOf? 10 with
    | some j => i - j
    | none => 0
  (1 + (before.take lineStart).count 10, i - lineStart)

/-- A problem where the cursor stands. -/
def errorAt (c : Cursor) (p : Problem) : ReadError :=
  ⟨p, some (positionOf c.text c.index)⟩

/-- A problem with the byte the cursor looks at: one byte further, within the text. -/
def peekErrorAt (c : Cursor) (p : Problem) : ReadError :=
  ⟨p, some (positionOf c.text (min (c.index + c.rest.length) (c.index + 1)))⟩

/-- An error placed where the cursor stands, unless it has a place already. -/
def placeAt (c : Cursor) (e : ReadError) : ReadError :=
  match e.position with
  | some _ => e
  | none => errorAt c e.problem

/-- Whether a byte is JSON whitespace. -/
def isBlank (b : UInt8) : Bool :=
  b = 32 || b = 10 || b = 9 || b = 13

/-- The cursor past whitespace. -/
def skipBlanks (c : Cursor) : Cursor :=
  c.skip (c.rest.takeWhile isBlank).length

/-- Whether a byte is an ASCII digit. -/
def isDigit (b : UInt8) : Bool :=
  48 ≤ b && b ≤ 57

/-- The value of a digit byte. -/
def digitOf (b : UInt8) : Nat :=
  b.toNat - 48

/-- The cursor past digits. -/
def skipDigits (c : Cursor) : Cursor :=
  c.skip (c.rest.takeWhile isDigit).length

/-- Whether the next byte is `e` or `E`. -/
def atExponent (c : Cursor) : Bool :=
  c.peek = some 101 || c.peek = some 69

/-! ## Strings -/

/-- The value of a hex digit byte. -/
def hexValue (b : UInt8) : Option Nat :=
  if 48 ≤ b && b ≤ 57 then some (b.toNat - 48)
  else if 97 ≤ b && b ≤ 102 then some (b.toNat - 87)
  else if 65 ≤ b && b ≤ 70 then some (b.toNat - 55)
  else none

/-- The four hex digits of a `\u` escape: read all four, then checked. -/
def hexEscape (c : Cursor) : Except ReadError (Nat × Cursor) :=
  match c.rest with
  | a :: b :: d :: e :: _ =>
    let c' := c.skip 4
    match hexValue a, hexValue b, hexValue d, hexValue e with
    | some w, some x, some y, some z => .ok (((w * 16 + x) * 16 + y) * 16 + z, c')
    | _, _, _, _ => .error (errorAt c' .invalidEscape)
  | _ => .error (errorAt (c.skip c.rest.length) .eofString)

/-- The byte a one-letter escape stands for. -/
def shortEscape (b : UInt8) : Option UInt8 :=
  if b = 34 || b = 92 || b = 47 then some b
  else if b = 98 then some 8
  else if b = 102 then some 12
  else if b = 110 then some 10
  else if b = 114 then some 13
  else if b = 116 then some 9
  else none

/-- The UTF-8 bytes of a code point, most significant last, to go in front of reversed bytes. -/
def codePointBytes (n : Nat) : List UInt8 :=
  (Text.utf8 (String.singleton (Char.ofNat n))).reverse

/-- Reads a `\u` escape after its `u`: a code point, or a surrogate pair written as two escapes.
Adds its bytes to the reversed bytes read so far. -/
def unicodeEscape (c : Cursor) (acc : List UInt8) : Except ReadError (List UInt8 × Cursor) := do
  let (n, c2) ← hexEscape c
  if 0xDC00 ≤ n && n ≤ 0xDFFF then throw (errorAt c2 .loneSurrogate)
  else if n < 0xD800 || n > 0xDBFF then pure (codePointBytes n ++ acc, c2)
  else
    match c2.rest with
    | [] => throw (errorAt c2 .eofString)
    | b :: _ =>
      if b ≠ 92 then throw (errorAt c2.eat .unexpectedEndOfHexEscape)
      else
        let c3 := c2.eat
        match c3.rest with
        | [] => throw (errorAt c3 .eofString)
        | b2 :: _ =>
          if b2 ≠ 117 then throw (errorAt c3.eat .unexpectedEndOfHexEscape)
          else
            let (n2, c5) ← hexEscape c3.eat
            if n2 < 0xDC00 || n2 > 0xDFFF then throw (errorAt c5 .loneSurrogate)
            else pure (codePointBytes ((n - 0xD800) * 1024 + (n2 - 0xDC00) + 0x10000) ++ acc, c5)

/-- Reads the escape after a backslash, adding its bytes to the reversed bytes read so far. -/
def escape (c : Cursor) (acc : List UInt8) : Except ReadError (List UInt8 × Cursor) :=
  match c.rest with
  | [] => .error (errorAt c .eofString)
  | ch :: _ =>
    match shortEscape ch with
    | some b => .ok (b :: acc, c.eat)
    | none =>
      if ch = 117 then unicodeEscape c.eat acc
      else .error (errorAt c.eat .invalidEscape)

/-- Reads the rest of a string after its opening quote; every round reads at least one byte. -/
def stringBody : Nat → Cursor → List UInt8 → Except ReadError (String × Cursor)
  | 0, c, _ => .error (errorAt c .eofString)
  | fuel + 1, c, acc =>
    match c.rest with
    | [] => .error (errorAt c .eofString)
    | b :: _ =>
      if b = 34 then .ok (Text.textOfBytes acc.reverse, c.eat)
      else if b = 92 then
        match escape c.eat acc with
        | .ok (acc', c') => stringBody fuel c' acc'
        | .error e => .error e
      else if b < 32 then .error (errorAt c.eat .controlCharacter)
      else stringBody fuel c.eat (b :: acc)

/-- Reads a string after its opening quote. -/
def readString (c : Cursor) : Except ReadError (String × Cursor) :=
  stringBody (c.rest.length + 1) c []

/-- Checks the escape after a backslash of a skipped string. -/
def skipEscape (c : Cursor) : Except ReadError Cursor :=
  match c.rest with
  | [] => .error (errorAt c .eofString)
  | ch :: _ =>
    match shortEscape ch with
    | some _ => .ok c.eat
    | none =>
      if ch = 117 then (hexEscape c.eat).map (·.2)
      else .error (errorAt c.eat .invalidEscape)

/-- Skips the rest of a string after its opening quote, checking its escapes. -/
def skipStringBody : Nat → Cursor → Except ReadError Cursor
  | 0, c => .error (errorAt c .eofString)
  | fuel + 1, c =>
    match c.rest with
    | [] => .error (errorAt c .eofString)
    | b :: _ =>
      if b = 34 then .ok c.eat
      else if b = 92 then
        match skipEscape c.eat with
        | .ok c' => skipStringBody fuel c'
        | .error e => .error e
      else if b < 32 then .error (errorAt c .controlCharacter)
      else skipStringBody fuel c.eat

/-- Skips a string after its opening quote. -/
def skipString (c : Cursor) : Except ReadError Cursor :=
  skipStringBody (c.rest.length + 1) c

/-- Reads the rest of a word such as `null` after its first letter. -/
def word : List UInt8 → Cursor → Except ReadError Cursor
  | [], c => .ok c
  | x :: xs, c =>
    match c.rest with
    | [] => .error (errorAt c .eofValue)
    | b :: _ => if b = x then word xs c.eat else .error (errorAt c.eat .expectedIdent)

/-! ## Numbers -/

/-- A number as read: an unsigned 64-bit integer, a negative 64-bit integer, or a binary64 number
with its sign. -/
inductive Number where
  | unsigned (n : Nat)
  | signed (n : Int)
  | float (negative : Bool) (x : Magnitude)
  deriving DecidableEq, Repr

/-- How a number is described in a type error. -/
def Number.describe : Number → String
  | .unsigned n => "integer `" ++ toString n ++ "`"
  | .signed n => "integer `" ++ toString n ++ "`"
  | .float negative x => "floating point `" ++ Binary64.text negative x ++ "`"

/-- The greatest 64-bit unsigned integer. -/
def u64Max : Nat := Nat.pow 2 64 - 1

/-- The greatest 32-bit signed integer. -/
def i32Max : Nat := Nat.pow 2 31 - 1

/-- An integer clamped to the 32-bit signed range. -/
def saturate (n : Int) : Int :=
  max (-Int.pow 2 31) (min (Int.pow 2 31 - 1) n)

/-- The binary64 number of `significand * 10 ^ exponent`, or the range error where the cursor
stands. -/
def floatOf (positive : Bool) (significand : Nat) (exponent : Int) (c : Cursor) :
    Except ReadError (Number × Cursor) :=
  match Binary64.ofDecimal significand exponent with
  | some x => .ok (.float (!positive) x, c)
  | none => .error (errorAt c .numberOutOfRange)

/-- Reads exponent digits after the first one. An exponent beyond the 32-bit range is out of
range for a non-zero significand and a positive exponent, and makes zero otherwise. -/
def exponentDigits (positive : Bool) (significand : Nat) (start : Int) (up : Bool) :
    Nat → Nat → Cursor → Except ReadError (Number × Cursor)
  | 0, _, c => .error (errorAt c .invalidNumber)
  | fuel + 1, exp, c =>
    match c.peek with
    | some d =>
      if isDigit d then
        let c := c.eat
        let exp' := exp * 10 + digitOf d
        if exp' > i32Max then
          if significand ≠ 0 && up then .error (errorAt c .numberOutOfRange)
          else .ok (.float (!positive) ⟨0, leastExp⟩, skipDigits c)
        else exponentDigits positive significand start up fuel exp' c
      else floatOf positive significand (saturate (if up then start + exp else start - exp)) c
    | none => floatOf positive significand (saturate (if up then start + exp else start - exp)) c

/-- Reads an exponent at its `e`: an optional sign and at least one digit. -/
def exponentPart (positive : Bool) (significand : Nat) (start : Int) (c : Cursor) :
    Except ReadError (Number × Cursor) :=
  let c := c.eat
  let (up, c) := match c.peek with
    | some 43 => (true, c.eat)
    | some 45 => (false, c.eat)
    | _ => (true, c)
  match c.rest with
  | [] => .error (errorAt c .eofValue)
  | b :: _ =>
    let c := c.eat
    if isDigit b then exponentDigits positive significand start up (c.rest.length + 1) (digitOf b) c
    else .error (errorAt c .invalidNumber)

/-- Reads the rest of a number once its significand no longer fits 64 bits: further digits only
move the point. -/
def overflowTail (positive : Bool) (significand : Nat) (exponent : Int) (c : Cursor) :
    Except ReadError (Number × Cursor) :=
  let c := skipDigits c
  if atExponent c then exponentPart positive significand exponent c
  else floatOf positive significand exponent c

/-- Reads fraction digits; `after` counts them, negated. -/
def fractionDigits (positive : Bool) (before : Int) :
    Nat → Nat → Int → Cursor → Except ReadError (Number × Cursor)
  | 0, _, _, c => .error (errorAt c .invalidNumber)
  | fuel + 1, significand, after, c =>
    match c.peek with
    | some d =>
      if isDigit d then
        if significand * 10 + digitOf d > u64Max then overflowTail positive significand (before + after) c
        else fractionDigits positive before fuel (significand * 10 + digitOf d) (after - 1) c.eat
      else if after = 0 then .error (peekErrorAt c .invalidNumber)
      else if atExponent c then exponentPart positive significand (before + after) c
      else floatOf positive significand (before + after) c
    | none =>
      if after = 0 then .error (peekErrorAt c .eofValue)
      else floatOf positive significand (before + after) c

/-- Reads a fraction at its point. -/
def fractionPart (positive : Bool) (significand : Nat) (before : Int) (c : Cursor) :
    Except ReadError (Number × Cursor) :=
  let c := c.eat
  fractionDigits positive before (c.rest.length + 1) significand 0 c

/-- Reads what follows the integer digits: a fraction, an exponent, or nothing. An integer
without either is an unsigned or a negative 64-bit integer; `-0` and integers below `-2 ^ 63`
are binary64 numbers. -/
def numberTail (positive : Bool) (significand : Nat) (c : Cursor) : Except ReadError (Number × Cursor) :=
  if c.peek = some 46 then fractionPart positive significand 0 c
  else if atExponent c then exponentPart positive significand 0 c
  else if positive then .ok (.unsigned significand, c)
  else if 0 < significand && significand ≤ Nat.pow 2 63 then .ok (.signed (-(significand : Int)), c)
  else .ok (.float true ((Binary64.ofNat significand).getD ⟨0, leastExp⟩), c)

/-- Reads the digits of an integer too long for 64 bits: they move the point. -/
def longInteger (positive : Bool) (significand : Nat) (c : Cursor) : Except ReadError (Number × Cursor) :=
  let digits := (c.rest.takeWhile isDigit).length
  let c := c.skip digits
  if c.peek = some 46 then fractionPart positive significand digits c
  else if atExponent c then exponentPart positive significand digits c
  else floatOf positive significand digits c

/-- Reads integer digits after the first one. -/
def integerDigits (positive : Bool) : Nat → Nat → Cursor → Except ReadError (Number × Cursor)
  | 0, _, c => .error (errorAt c .invalidNumber)
  | fuel + 1, significand, c =>
    match c.peek with
    | some d =>
      if isDigit d then
        if significand * 10 + digitOf d > u64Max then longInteger positive significand c
        else integerDigits positive fuel (significand * 10 + digitOf d) c.eat
      else numberTail positive significand c
    | none => numberTail positive significand c

/-- Reads a number after its sign: one leading zero at most. -/
def readNumber (positive : Bool) (c : Cursor) : Except ReadError (Number × Cursor) :=
  match c.rest with
  | [] => .error (errorAt c .eofValue)
  | b :: _ =>
    let c := c.eat
    if b = 48 then
      match c.peek with
      | some d => if isDigit d then .error (peekErrorAt c .invalidNumber) else numberTail positive 0 c
      | none => numberTail positive 0 c
    else if isDigit b then integerDigits positive (c.rest.length + 1) (digitOf b) c
    else .error (errorAt c .invalidNumber)

/-- Checks an exponent of a skipped number at its `e`. -/
def skipExponent (c : Cursor) : Except ReadError Cursor :=
  let c := c.eat
  let c := if c.peek = some 43 || c.peek = some 45 then c.eat else c
  match c.rest with
  | [] => .error (errorAt c .invalidNumber)
  | b :: _ => if isDigit b then .ok (skipDigits c.eat) else .error (errorAt c.eat .invalidNumber)

/-- Checks a skipped number after its sign. -/
def skipNumber (c : Cursor) : Except ReadError Cursor :=
  let tail (c : Cursor) : Except ReadError Cursor :=
    if c.peek = some 46 then
      let c := c.eat
      let digits := (c.rest.takeWhile isDigit).length
      if digits = 0 then .error (peekErrorAt c .invalidNumber)
      else
        let c := c.skip digits
        if atExponent c then skipExponent c else .ok c
    else if atExponent c then skipExponent c
    else .ok c
  match c.rest with
  | [] => .error (errorAt c .invalidNumber)
  | b :: _ =>
    let c := c.eat
    if b = 48 then
      if (c.peek.map isDigit).getD false then .error (peekErrorAt c .invalidNumber) else tail c
    else if isDigit b then tail (skipDigits c)
    else .error (errorAt c .invalidNumber)

/-! ## Skipped values -/

mutual

/-- Skips a value, checking its syntax. -/
def skipValue : Nat → Cursor → Except ReadError Cursor
  | 0, c => .error (peekErrorAt c .eofValue)
  | fuel + 1, c =>
    let c := skipBlanks c
    match c.rest with
    | [] => .error (peekErrorAt c .eofValue)
    | b :: _ =>
      if b = 110 then word [117, 108, 108] c.eat
      else if b = 116 then word [114, 117, 101] c.eat
      else if b = 102 then word [97, 108, 115, 101] c.eat
      else if b = 45 then skipNumber c.eat
      else if isDigit b then skipNumber c
      else if b = 34 then skipString c.eat
      else if b = 91 then skipItems fuel true c.eat
      else if b = 123 then skipMembers fuel true c.eat
      else .error (peekErrorAt c .expectedValue)

/-- Skips the items of an array after its bracket or after an item. -/
def skipItems : Nat → Bool → Cursor → Except ReadError Cursor
  | 0, _, c => .error (peekErrorAt c .eofList)
  | fuel + 1, first, c =>
    let c := skipBlanks c
    match c.rest with
    | [] => .error (peekErrorAt c .eofList)
    | b :: _ =>
      if b = 93 then .ok c.eat
      else if first then
        match skipValue fuel c with
        | .ok c' => skipItems fuel false c'
        | .error e => .error e
      else if b = 44 then
        match skipValue fuel c.eat with
        | .ok c' => skipItems fuel false c'
        | .error e => .error e
      else .error (peekErrorAt c .expectedListCommaOrEnd)

/-- Skips the members of an object after its brace or after a member. -/
def skipMembers : Nat → Bool → Cursor → Except ReadError Cursor
  | 0, _, c => .error (peekErrorAt c .eofObject)
  | fuel + 1, first, c =>
    let c := skipBlanks c
    match c.rest with
    | [] => .error (peekErrorAt c .eofObject)
    | b :: _ =>
      if b = 125 then .ok c.eat
      else if first then skipMember fuel c
      else if b = 44 then skipMember fuel c.eat
      else .error (peekErrorAt c .expectedObjectCommaOrEnd)

/-- Skips one member of an object: its key, colon and value, and the members after it. -/
def skipMember : Nat → Cursor → Except ReadError Cursor
  | 0, c => .error (peekErrorAt c .eofValue)
  | fuel + 1, c =>
    let c := skipBlanks c
    match c.rest with
    | [] => .error (peekErrorAt c .eofValue)
    | b :: _ =>
      if b ≠ 34 then .error (peekErrorAt c .keyMustBeString)
      else
        match skipString c.eat with
        | .error e => .error e
        | .ok c =>
          let c := skipBlanks c
          match c.rest with
          | [] => .error (peekErrorAt c .eofObject)
          | b :: _ =>
            if b ≠ 58 then .error (peekErrorAt c .expectedColon)
            else
              match skipValue fuel c.eat with
              | .ok c' => skipMembers fuel false c'
              | .error e => .error e

end

/-! ## Fields -/

/-- The type of a record field. -/
inductive FieldKind where
  | text
  | int32
  deriving DecidableEq, Repr

/-- How a field's type is named in a type error. -/
def FieldKind.expected : FieldKind → String
  | .text => "a string"
  | .int32 => "i32"

/-- The value of a record field. -/
inductive FieldValue where
  | text (s : String)
  | int32 (n : Int32)
  deriving DecidableEq, Repr

/-- A data error. -/
def dataError (message : String) : ReadError :=
  ⟨.data message, none⟩

/-- The error for a value of another type than expected, placed after the value when it reads,
or the value's own syntax error. -/
def typeMismatch (c : Cursor) (expected : String) : ReadError :=
  let mismatch (what : String) (c' : Cursor) : ReadError :=
    placeAt c' (dataError ("invalid type: " ++ what ++ ", expected " ++ expected))
  match c.rest with
  | [] => peekErrorAt c .expectedValue
  | b :: _ =>
    let afterWord (rest : List UInt8) (what : String) : ReadError :=
      match word rest c.eat with
      | .ok c' => mismatch what c'
      | .error e => e
    let afterNumber (r : Except ReadError (Number × Cursor)) : ReadError :=
      match r with
      | .ok (n, c') => mismatch n.describe c'
      | .error e => e
    if b = 110 then afterWord [117, 108, 108] "null"
    else if b = 116 then afterWord [114, 117, 101] "boolean `true`"
    else if b = 102 then afterWord [97, 108, 115, 101] "boolean `false`"
    else if b = 45 then afterNumber (readNumber false c.eat)
    else if isDigit b then afterNumber (readNumber true c)
    else if b = 34 then
      match readString c.eat with
      | .ok (s, c') => mismatch ("string " ++ Text.quoteString s) c'
      | .error e => e
    else if b = 91 then mismatch "sequence" c
    else if b = 123 then mismatch "map" c
    else peekErrorAt c .expectedValue

/-- Reads a string field. -/
def readText (c : Cursor) : Except ReadError (FieldValue × Cursor) :=
  let c := skipBlanks c
  match c.rest with
  | [] => .error (peekErrorAt c .eofValue)
  | b :: _ =>
    if b = 34 then (readString c.eat).map fun (s, c') => (.text s, c')
    else .error (typeMismatch c FieldKind.text.expected)

/-- A number as a 32-bit field, or why it does not fit, placed after it. -/
def int32Of (n : Number) (c : Cursor) : Except ReadError (FieldValue × Cursor) :=
  let outOfRange (what : String) : ReadError :=
    placeAt c (dataError ("invalid value: " ++ what ++ ", expected i32"))
  match n with
  | .unsigned v => if v ≤ i32Max then .ok (.int32 (Int32.ofInt v), c) else .error (outOfRange n.describe)
  | .signed v => if -Int.pow 2 31 ≤ v then .ok (.int32 (Int32.ofInt v), c) else .error (outOfRange n.describe)
  | .float .. => .error (placeAt c (dataError ("invalid type: " ++ n.describe ++ ", expected i32")))

/-- Reads a 32-bit integer field. -/
def readInt32 (c : Cursor) : Except ReadError (FieldValue × Cursor) :=
  let c := skipBlanks c
  match c.rest with
  | [] => .error (peekErrorAt c .eofValue)
  | b :: _ =>
    let read := if b = 45 then readNumber false c.eat
      else if isDigit b then readNumber true c
      else .error (typeMismatch c FieldKind.int32.expected)
    match read with
    | .ok (n, c') => int32Of n c'
    | .error e => .error e

/-- Reads a field of a kind. -/
def readField : FieldKind → Cursor → Except ReadError (FieldValue × Cursor)
  | .text => readText
  | .int32 => readInt32

/-! ## Records -/

/-- The shape of a record: its name, for errors, and its fields in order. -/
structure Shape where
  name : String
  fields : List (String × FieldKind)

/-- How the record is named when its array has the wrong length. -/
def Shape.withItems (s : Shape) : String :=
  "struct " ++ s.name ++ " with " ++ toString s.fields.length ++
    (if s.fields.length = 1 then " element" else " elements")

/-- A failed read of a record's inside and where the reader stood. -/
abbrev Stop := ReadError × Cursor

/-- Reads the items of a record's array, the fields in order, after its bracket. -/
def readItems (s : Shape) : List (String × FieldKind) → Nat → Cursor → List FieldValue →
    Except Stop (List FieldValue × Cursor)
  | [], _, c, acc => .ok (acc.reverse, c)
  | (_, kind) :: rest, i, c, acc =>
    let c := skipBlanks c
    let next : Except ReadError (Option Cursor) :=
      match c.rest with
      | [] => .error (peekErrorAt c .eofList)
      | b :: _ =>
        if b = 93 then .ok none
        else if i = 0 then .ok (some c)
        else if b = 44 then
          let c' := skipBlanks c.eat
          match c'.rest with
          | [] => .error (peekErrorAt c' .eofValue)
          | b' :: _ => if b' = 93 then .error (peekErrorAt c' .trailingComma) else .ok (some c')
        else .error (peekErrorAt c .expectedListCommaOrEnd)
    match next with
    | .error e => .error (e, c)
    | .ok none => .error (dataError ("invalid length " ++ toString i ++ ", expected " ++ s.withItems), c)
    | .ok (some c') =>
      match readField kind c' with
      | .ok (v, c'') => readItems s rest (i + 1) c'' (v :: acc)
      | .error e => .error (e, c')

/-- The end of a record's array: its bracket, or why there is none. Answers where the reader
stopped. -/
def closeItems (c : Cursor) : Cursor × Option ReadError :=
  let c := skipBlanks c
  match c.rest with
  | [] => (c, some (peekErrorAt c .eofList))
  | b :: _ =>
    if b = 93 then (c.eat, none)
    else if b = 44 then
      let c' := skipBlanks c.eat
      if c'.peek = some 93 then (c', some (peekErrorAt c' .trailingComma))
      else (c', some (peekErrorAt c' .trailingCharacters))
    else (c, some (peekErrorAt c .trailingCharacters))

/-- The end of a record's object: its brace, or why there is none. -/
def closeMembers (c : Cursor) : Cursor × Option ReadError :=
  let c := skipBlanks c
  match c.rest with
  | [] => (c, some (peekErrorAt c .eofObject))
  | b :: _ =>
    if b = 125 then (c.eat, none)
    else if b = 44 then (c, some (peekErrorAt c .trailingComma))
    else (c, some (peekErrorAt c .trailingCharacters))

/-- The field values read so far, one slot per field. -/
abbrev Slots := List (Option FieldValue)

/-- The next key of a record's object, or `none` at its brace. -/
def nextKey (first : Bool) (c : Cursor) : Except ReadError (Option (String × Cursor)) :=
  let c := skipBlanks c
  let keyAt (c : Cursor) : Except ReadError (Option (String × Cursor)) :=
    match c.rest with
    | [] => .error (peekErrorAt c .eofValue)
    | b :: _ =>
      if b = 34 then (readString c.eat).map some
      else if b = 125 then .error (peekErrorAt c .trailingComma)
      else .error (peekErrorAt c .keyMustBeString)
  match c.rest with
  | [] => .error (peekErrorAt c .eofObject)
  | b :: _ =>
    if b = 125 then .ok none
    else if b = 44 && !first then keyAt (skipBlanks c.eat)
    else if first then keyAt c
    else .error (peekErrorAt c .expectedObjectCommaOrEnd)

/-- Reads the colon after a key. -/
def colon (c : Cursor) : Except ReadError Cursor :=
  let c := skipBlanks c
  match c.rest with
  | [] => .error (peekErrorAt c .eofObject)
  | b :: _ => if b = 58 then .ok c.eat else .error (peekErrorAt c .expectedColon)

/-- The position of a field by name. -/
def fieldIndex (s : Shape) (key : String) : Option Nat :=
  s.fields.findIdx? (·.1 = key)

/-- The fields in order, or the first one missing. -/
def filled (s : Shape) (slots : Slots) : Except String (List FieldValue) :=
  (s.fields.zip slots).mapM fun ((name, _), v) =>
    match v with
    | some v => .ok v
    | none => .error name

/-- Reads the members of a record's object after its brace; every round reads a key. A repeated
field is refused at its key, other members are skipped, and a missing field is refused at the
brace. -/
def readMembers (s : Shape) : Nat → Bool → Slots → Cursor → Except Stop (List FieldValue × Cursor)
  | 0, _, _, c => .error (peekErrorAt c .eofObject, c)
  | fuel + 1, first, slots, c =>
    match nextKey first c with
    | .error e => .error (e, c)
    | .ok none =>
      let c := skipBlanks c
      match filled s slots with
      | .ok vs => .ok (vs, c)
      | .error name => .error (dataError ("missing field `" ++ name ++ "`"), c)
    | .ok (some (key, c)) =>
      match fieldIndex s key with
      | some i =>
        if (slots.getD i none).isSome then
          .error (dataError ("duplicate field `" ++ ((s.fields.getD i ("", .text)).1) ++ "`"), c)
        else
          let kind := (s.fields.getD i ("", .text)).2
          match colon c with
          | .error e => .error (e, c)
          | .ok c =>
            match readField kind c with
            | .error e => .error (e, c)
            | .ok (v, c) => readMembers s fuel false (slots.set i (some v)) c
      | none =>
        match colon c with
        | .error e => .error (e, c)
        | .ok c =>
          match skipValue (2 * c.rest.length + 4) c with
          | .error e => .error (e, c)
          | .ok c => readMembers s fuel false slots c

/-- Reads a record: an object or an array after optional whitespace. An error without a place is
placed where the reader stood after trying to close the record. -/
def readShape (s : Shape) (c : Cursor) : Except ReadError (List FieldValue × Cursor) :=
  let c := skipBlanks c
  let finish (r : Except Stop (List FieldValue × Cursor)) (close : Cursor → Cursor × Option ReadError) :
      Except ReadError (List FieldValue × Cursor) :=
    match r with
    | .ok (vs, c') =>
      match close c' with
      | (c'', none) => .ok (vs, c'')
      | (c'', some e) => .error (placeAt c'' e)
    | .error (e, c') => .error (placeAt (close c').1 e)
  match c.rest with
  | [] => .error (peekErrorAt c .eofValue)
  | b :: _ =>
    if b = 91 then finish (readItems s s.fields 0 c.eat []) closeItems
    else if b = 123 then
      finish (readMembers s (c.rest.length + 1) true (s.fields.map fun _ => none) c.eat) closeMembers
    else .error (typeMismatch c ("struct " ++ s.name))

/-- Reads a record of a shape from JSON text and builds it; a refusal of the builder has no place,
and only a built record is checked for text after it. -/
def read {α : Type} (s : Shape) (build : List FieldValue → Except String α) (input : String) :
    Except ReadError α :=
  let bytes := Text.utf8 input
  match readShape s ⟨bytes, bytes, 0⟩ with
  | .error e => .error e
  | .ok (vs, c) =>
    match build vs with
    | .error message => .error (dataError message)
    | .ok a =>
      let c := skipBlanks c
      match c.rest with
      | [] => .ok a
      | _ => .error (peekErrorAt c .trailingCharacters)

end ScoreKeeper.JsonRecord
