import ScoreKeeper.Toml.Value

/-!
# ScoreKeeper — reading TOML

A reader for TOML 1.0 documents whose failures name the place and the reason the way TOML tools
report them. Every step reads from a cursor (the characters left and their byte offset) and
either gives a result with the cursor after it, or fails. A failure is *soft* when another
reading may still be tried, and *hard* once the input is known to be wrong; it carries what was
being read (`invalid string`), what was expected there (``expected `.`, `=` ``) and an underlying
reason. Where a reading fails determines the place reported: where the failing step stood, or the
start of a value that was read but could not be converted.

Recursion into arrays and inline tables, and every loop, is bounded by a fuel that starts at the
length of the input; each round consumes a character, so the fuel never runs out first.
-/

namespace ScoreKeeper.Toml

/-- Characters left to read and the byte offset of the first. -/
structure Cursor where
  rest : List Char
  pos : Nat

/-- The cursor past one character. -/
def Cursor.next (c : Cursor) : Cursor :=
  match c.rest with
  | [] => c
  | x :: r => ⟨r, c.pos + x.utf8Size⟩

/-- The cursor past every leading character that satisfies `p`. -/
def Cursor.skipWhile (p : Char → Bool) (c : Cursor) : Cursor :=
  go c.rest c.pos
where
  /-- Skips over a list of characters. -/
  go : List Char → Nat → Cursor
    | [], pos => ⟨[], pos⟩
    | x :: r, pos => if p x then go r (pos + x.utf8Size) else ⟨x :: r, pos⟩

/-- The leading characters that satisfy `p`. -/
def Cursor.span (p : Char → Bool) (c : Cursor) : List Char :=
  c.rest.takeWhile p

/-- The cursor past `n` characters. -/
def Cursor.skip (n : Nat) (c : Cursor) : Cursor :=
  match n with
  | 0 => c
  | k + 1 => (c.next).skip k

/-- Whether the input left starts with some characters. -/
def Cursor.startsWith (c : Cursor) (s : List Char) : Bool :=
  s.isPrefixOf c.rest

/-- What a failed reading was about. -/
inductive Ctx where
  | label (s : String)
  | expected (s : String)
  deriving DecidableEq, Repr

/-- A failed reading. -/
structure Fail where
  pos : Nat
  hard : Bool
  ctx : List Ctx
  cause : Option String
  deriving Repr

/-- A soft failure at a cursor. -/
def soft {α : Type} (c : Cursor) (ctx : List Ctx) : Except Fail α :=
  .error ⟨c.pos, false, ctx, none⟩

/-- A hard failure at a cursor. -/
def hardAt {α : Type} (c : Cursor) (ctx : List Ctx) : Except Fail α :=
  .error ⟨c.pos, true, ctx, none⟩

/-- A hard failure at a cursor for an underlying reason. -/
def hardCause {α : Type} (c : Cursor) (cause : String) : Except Fail α :=
  .error ⟨c.pos, true, [], some cause⟩

/-- Adds what a failure was about. -/
def within {α : Type} (ctx : List Ctx) (r : Except Fail α) : Except Fail α :=
  r.mapError fun f => { f with ctx := f.ctx ++ ctx }

/-- Makes a failure hard. -/
def hardened {α : Type} (r : Except Fail α) : Except Fail α :=
  r.mapError fun f => { f with hard := true }

/-- An expected character, as failures show it. -/
def expectChar (c : Char) : Ctx :=
  if c = '\n' then .expected "newline" else .expected ("`" ++ c.toString ++ "`")

/-- An expected text, as failures show it. -/
def expectText (s : String) : Ctx :=
  .expected ("`" ++ s ++ "`")

/-! ## Characters -/

/-- A space or a tab. -/
def isBlank (c : Char) : Bool := c = ' ' || c = '\t'

/-- A character allowed in a comment. -/
def isCommentChar (c : Char) : Bool :=
  c = '\t' || (0x20 ≤ c.toNat && c.toNat ≤ 0x7E) || 0x80 ≤ c.toNat

/-- A character of a bare key. -/
def isBareKeyChar (c : Char) : Bool :=
  (c.isAlphanum && c.toNat < 128) || c = '-' || c = '_'

/-- A character that stands for itself in a basic string. -/
def isBasicChar (c : Char) : Bool :=
  isBlank c || c.toNat = 0x21 || (0x23 ≤ c.toNat && c.toNat ≤ 0x5B) ||
    (0x5D ≤ c.toNat && c.toNat ≤ 0x7E) || 0x80 ≤ c.toNat

/-- A character allowed in a literal string. -/
def isLiteralChar (c : Char) : Bool :=
  c = '\t' || (0x20 ≤ c.toNat && c.toNat ≤ 0x26) || (0x28 ≤ c.toNat && c.toNat ≤ 0x7E) ||
    0x80 ≤ c.toNat

/-- An ASCII digit of a radix up to 16. -/
def digitOf (radix : Nat) (c : Char) : Option Nat :=
  let v := if '0' ≤ c && c ≤ '9' then some (c.toNat - '0'.toNat)
    else if 'a' ≤ c && c ≤ 'f' then some (c.toNat - 'a'.toNat + 10)
    else if 'A' ≤ c && c ≤ 'F' then some (c.toNat - 'A'.toNat + 10)
    else none
  v.bind fun d => if d < radix then some d else none

/-! ## Blank space, comments and line ends -/

/-- Skips spaces and tabs. -/
def blanks (c : Cursor) : Cursor := c.skipWhile isBlank

/-- Skips a comment, if one starts here. -/
def comment? (c : Cursor) : Option Cursor :=
  match c.rest with
  | '#' :: _ => some (c.next.skipWhile isCommentChar)
  | _ => none

/-- Skips a line break, `\n` or `\r\n`, if one starts here. -/
def newline? (c : Cursor) : Option Cursor :=
  match c.rest with
  | '\n' :: _ => some c.next
  | '\r' :: '\n' :: _ => some (c.skip 2)
  | _ => none

/-- A line break or the end of the input. -/
def lineEnd (c : Cursor) : Except Fail (Unit × Cursor) :=
  match newline? c with
  | some c' => .ok ((), c')
  | none => if c.rest.isEmpty then .ok ((), c) else soft c []

/-- The rest of a line after a value or header: blanks, a comment, and the line's end. -/
def lineRest (c : Cursor) : Except Fail (Unit × Cursor) :=
  let c1 := blanks c
  lineEnd ((comment? c1).getD c1)

/-- Skips blanks and line breaks. -/
def blanksAndLines : Nat → Cursor → Cursor
  | 0, c => c
  | n + 1, c =>
    let c1 := blanks c
    match newline? c1 with
    | some c2 => blanksAndLines n c2
    | none => c1

/-- Skips blanks, line breaks and whole-line comments, as between array items. -/
def blanksCommentsLines : Nat → Cursor → Except Fail Cursor
  | 0, c => .ok c
  | n + 1, c =>
    let c1 := blanks c
    match c1.rest with
    | '#' :: _ =>
      let c2 := (comment? c1).getD c1
      match newline? c2 with
      | some c3 => blanksCommentsLines n c3
      | none => soft c2 []
    | '\n' :: _ | '\r' :: _ =>
      match newline? c1 with
      | some c2 => blanksCommentsLines n c2
      | none => soft c1 []
    | _ => .ok c1

/-! ## Strings -/

/-- Reads exactly `n` hex digits as a character. -/
def hexEscape (n : Nat) (c : Cursor) : Except Fail (Char × Cursor) :=
  let ds := (c.span fun x => (digitOf 16 x).isSome).take n
  if ds.length ≠ n then soft c []
  else
    let v := ds.foldl (fun acc x => acc * 16 + (digitOf 16 x).getD 0) 0
    if v ≤ 0x10FFFF && !(0xD800 ≤ v && v ≤ 0xDFFF) then .ok (Char.ofNat v, c.skip n)
    else .error ⟨c.pos, false, [], some "value is out of range"⟩

/-- Reads an escape sequence; the cursor stands on the backslash. -/
def escape (c : Cursor) : Except Fail (Char × Cursor) :=
  let c1 := c.next
  match c1.rest with
  | [] => soft c1 []
  | x :: _ =>
    let c2 := c1.next
    match x with
    | 'b' => .ok ('\x08', c2)
    | 'f' => .ok ('\x0c', c2)
    | 'n' => .ok ('\n', c2)
    | 'r' => .ok ('\r', c2)
    | 't' => .ok ('\t', c2)
    | '\\' => .ok ('\\', c2)
    | '"' => .ok ('"', c2)
    | 'u' => hardened (within [.label "unicode 4-digit hex code"] (hexEscape 4 c2))
    | 'U' => hardened (within [.label "unicode 8-digit hex code"] (hexEscape 8 c2))
    | _ =>
      hardAt c2 ([.label "escape sequence"] ++
        ['b', 'f', 'n', 'r', 't', 'u', 'U', '\\', '"'].map expectChar)

/-- Reads the characters of a basic string up to its closing quote. -/
def basicBody : Nat → Cursor → List Char → Except Fail (String × Cursor)
  | 0, c, _ => hardAt c [.label "basic string"]
  | n + 1, c, acc =>
    match c.rest with
    | '"' :: _ => .ok (String.ofList acc, c.next)
    | '\\' :: _ =>
      match escape c with
      | .ok (ch, c') => basicBody n c' (acc ++ [ch])
      | .error f => if f.hard then .error f else hardAt c [.label "basic string"]
    | x :: _ =>
      if isBasicChar x then basicBody n c.next (acc ++ [x]) else hardAt c [.label "basic string"]
    | [] => hardAt c [.label "basic string"]

/-- Reads a basic string; the cursor stands on its opening quote. -/
def basicString (c : Cursor) : Except Fail (String × Cursor) :=
  basicBody (c.rest.length + 1) c.next []

/-- Reads a literal string; the cursor stands on its opening apostrophe. -/
def literalString (c : Cursor) : Except Fail (String × Cursor) :=
  let c1 := c.next
  let body := c1.span isLiteralChar
  let c2 := c1.skip body.length
  match c2.rest with
  | '\'' :: _ => .ok (String.ofList body, c2.next)
  | _ => hardAt c2 [.label "literal string"]

/-- Skips a backslash at a line's end with the blanks and line breaks after it, if one is here. -/
def escapedLineEnd? (fuel : Nat) (c : Cursor) : Option Cursor :=
  match c.rest with
  | '\\' :: _ =>
    match newline? (blanks c.next) with
    | some c' => some (blanksAndLines fuel c')
    | none => none
  | _ => none

/-- The number of quotes at the start of the input. -/
def quoteRun (q : Char) (c : Cursor) : Nat :=
  (c.span (· = q)).length

/-- Reads the body of a multi-line string up to its closing delimiter of three `q`; escapes are
read when `escapes`. -/
def multiBody (q : Char) (escapes : Bool) (label : String) : Nat → Cursor → List Char → Except Fail (String × Cursor)
  | 0, c, _ => hardAt c [.label label]
  | n + 1, c, acc =>
    let run := quoteRun q c
    if 3 ≤ run then
      let extra := min (run - 3) 2
      .ok (String.ofList (acc ++ List.replicate extra q), c.skip (extra + 3))
    else if 0 < run then multiBody q escapes label n (c.skip run) (acc ++ List.replicate run q)
    else
      match newline? c with
      | some c' => multiBody q escapes label n c' (acc ++ ['\n'])
      | none =>
        match c.rest with
        | [] => hardAt c [.label label]
        | '\\' :: _ =>
          if escapes then
            match escapedLineEnd? n c with
            | some c' => multiBody q escapes label n c' acc
            | none =>
              match escape c with
              | .ok (ch, c') => multiBody q escapes label n c' (acc ++ [ch])
              | .error f =>
                if f.hard then .error { f with ctx := f.ctx ++ [.label label] } else hardAt c [.label label]
          else multiBody q escapes label n c.next (acc ++ ['\\'])
        | x :: _ =>
          let ok := if escapes then isBasicChar x else isLiteralChar x
          if ok then multiBody q escapes label n c.next (acc ++ [x]) else hardAt c [.label label]

/-- Reads a multi-line string; the cursor stands on its opening delimiter. -/
def multiString (q : Char) (escapes : Bool) (label : String) (c : Cursor) : Except Fail (String × Cursor) :=
  let c1 := c.skip 3
  let c2 := (newline? c1).getD c1
  multiBody q escapes label (c.rest.length + 1) c2 []

/-- Reads a string of any of the four kinds. -/
def stringValue (c : Cursor) : Except Fail (String × Cursor) :=
  if c.startsWith ['"', '"', '"'] then multiString '"' true "multiline basic string" c
  else if c.startsWith ['"'] then basicString c
  else if c.startsWith ['\'', '\'', '\''] then multiString '\'' false "multiline literal string" c
  else literalString c

/-! ## Keys -/

/-- Reads one key of a dotted key, with the blanks around it. -/
def simpleKey (c : Cursor) : Except Fail (String × Cursor) :=
  let c1 := blanks c
  let r : Except Fail (String × Cursor) := match c1.rest with
    | '"' :: _ => basicString c1
    | '\'' :: _ => literalString c1
    | _ =>
      let name := c1.span isBareKeyChar
      if name.isEmpty then soft c1 [] else .ok (String.ofList name, c1.skip name.length)
  r.map fun (k, c2) => (k, blanks c2)

/-- Reads the keys after the first of a dotted key. -/
def moreKeys : Nat → Cursor → List String → Except Fail ((List String) × Cursor)
  | 0, c, acc => .ok (acc, c)
  | n + 1, c, acc =>
    match c.rest with
    | '.' :: _ =>
      match simpleKey c.next with
      | .ok (k, c') => moreKeys n c' (acc ++ [k])
      | .error f => if f.hard then .error f else .ok (acc, c)
    | _ => .ok (acc, c)

/-- Reads a dotted key: one or more keys joined by dots. -/
def dottedKey (c : Cursor) : Except Fail ((List String) × Cursor) :=
  within [.label "key"] (do
    let (k, c1) ← simpleKey c
    moreKeys (c.rest.length + 1) c1 [k])

/-! ## Numbers, dates and times -/

/-- Reads digits with single underscores between them, the first digit already read; fails hard
on an underscore without a digit after it. -/
def digitTail (radix : Nat) : Nat → Cursor → List Char → Except Fail ((List Char) × Cursor)
  | 0, c, acc => .ok (acc, c)
  | n + 1, c, acc =>
    match c.rest with
    | '_' :: x :: _ =>
      if (digitOf radix x).isSome then digitTail radix n (c.skip 2) (acc ++ ['_', x])
      else hardAt c.next [.expected "digit"]
    | ['_'] => hardAt c.next [.expected "digit"]
    | x :: _ => if (digitOf radix x).isSome then digitTail radix n c.next (acc ++ [x]) else .ok (acc, c)
    | [] => .ok (acc, c)

/-- Reads a decimal integer's text: an optional sign, then `0` alone or a nonzero digit and more. -/
def decimalText (c : Cursor) : Except Fail ((List Char) × Cursor) :=
  within [.label "integer"] (do
    let (sign, c1) := match c.rest with
      | '+' :: _ => (['+'], c.next)
      | '-' :: _ => (['-'], c.next)
      | _ => ([], c)
    match c1.rest with
    | '0' :: _ => .ok (sign ++ ['0'], c1.next)
    | x :: _ =>
      if '1' ≤ x && x ≤ '9' then
        let (ds, c2) ← digitTail 10 (c1.rest.length + 1) c1.next [x]
        .ok (sign ++ ds, c2)
      else soft c1 []
    | [] => soft c1 [])

/-- Reads digits that may start with zero, with single underscores between them. -/
def zeroDigits (c : Cursor) : Except Fail ((List Char) × Cursor) :=
  match c.rest with
  | x :: _ => if x.isDigit then digitTail 10 (c.rest.length + 1) c.next [x] else soft c []
  | [] => soft c []

/-- The value of signed decimal digits without underscores. -/
def decimalValue (cs : List Char) : Int :=
  let (neg, ds) := match cs with
    | '-' :: r => (true, r)
    | '+' :: r => (false, r)
    | r => (false, r)
  let v : Int := ds.foldl (fun acc d => acc * 10 + ((digitOf 10 d).getD 0 : Int)) 0
  if neg then -v else v

/-- The least and greatest 64-bit signed integers. -/
def int64Min : Int := -9223372036854775808

/-- The greatest 64-bit signed integer. -/
def int64Max : Int := 9223372036854775807

/-- A value as a 64-bit signed integer, or the reason it is not one. -/
def checkInt64 (v : Int) : Except String Int :=
  if int64Max < v then .error "number too large to fit in target type"
  else if v < int64Min then .error "number too small to fit in target type"
  else .ok v

/-- Reads a prefixed integer (`0x`, `0o`, `0b`); the cursor stands on the `0`. -/
def prefixedInteger (radix : Nat) (label : String) (c : Cursor) : Except Fail (Int × Cursor) :=
  let c1 := c.skip 2
  let r : Except Fail ((List Char) × Cursor) := within [.label label] (hardened (match c1.rest with
    | x :: _ =>
      if (digitOf radix x).isSome then digitTail radix (c1.rest.length + 1) c1.next [x]
      else soft c1 []
    | [] => soft c1 []))
  match r with
  | .error f => .error f
  | .ok (ds, c2) =>
    let v := (ds.filter (· ≠ '_')).foldl (fun acc d => acc * radix + (digitOf radix d).getD 0) 0
    match checkInt64 v with
    | .ok n => .ok (n, c2)
    | .error why => hardCause c why

/-- Reads an integer. -/
def integer (c : Cursor) : Except Fail (Int × Cursor) :=
  if c.startsWith ['0', 'x'] then prefixedInteger 16 "hexadecimal integer" c
  else if c.startsWith ['0', 'o'] then prefixedInteger 8 "octal integer" c
  else if c.startsWith ['0', 'b'] then prefixedInteger 2 "binary integer" c
  else do
    let (text, c2) ← decimalText c
    match checkInt64 (decimalValue (text.filter (· ≠ '_'))) with
    | .ok n => .ok (n, c2)
    | .error why => hardCause c why

/-- The decimal text of `ds × 10^e` in positional notation, with `.0` when it has no fraction;
`ds` has no leading or trailing zero. -/
def positional (ds : List Nat) (e : Int) : String :=
  let chars := ds.map fun d => Char.ofNat ('0'.toNat + d)
  if 0 ≤ e then String.ofList (chars ++ List.replicate e.toNat '0') ++ ".0"
  else
    let p : Int := (ds.length : Int) + e
    if 0 < p then String.ofList (chars.take p.toNat) ++ "." ++ String.ofList (chars.drop p.toNat)
    else "0." ++ String.ofList (List.replicate p.natAbs '0' ++ chars)

/-- The printed text of the float that a decimal float text names, or `none` when it is too large
to be finite. The digits written are the ones given, so that texts of up to fifteen significant
digits print as the shortest decimal naming the same float. -/
def floatOfText (text : List Char) : Option String :=
  let t := text.filter (· ≠ '_')
  let (neg, t) := match t with
    | '-' :: r => (true, r)
    | '+' :: r => (false, r)
    | r => (false, r)
  let (mant, expPart) := match t.idxOf? 'e', t.idxOf? 'E' with
    | some i, _ => (t.take i, t.drop (i + 1))
    | none, some i => (t.take i, t.drop (i + 1))
    | none, none => (t, [])
  let (intPart, fracPart) := match mant.idxOf? '.' with
    | some i => (mant.take i, mant.drop (i + 1))
    | none => (mant, [])
  let sign := if neg then "-" else ""
  let e0 : Int := decimalValue expPart - fracPart.length
  let ds := ((intPart ++ fracPart).filterMap (digitOf 10)).dropWhile (· = 0)
  let trailing := (ds.reverse.takeWhile (· = 0)).length
  let ds := ds.take (ds.length - trailing)
  let e := e0 + trailing
  if ds.isEmpty then some (sign ++ "0.0")
  else if 308 < (ds.length : Int) + e - 1 then none
  else if (ds.length : Int) + e - 1 < -324 then some (sign ++ "0.0")
  else some (sign ++ positional ds e)

/-- Reads a float's text after its integer part: an exponent, or a fraction and maybe an
exponent. -/
def floatTail (c : Cursor) : Except Fail ((List Char) × Cursor) :=
  let exponent : Cursor → Except Fail (List Char × Cursor) := fun c => match c.rest with
    | x :: _ =>
      if x = 'e' || x = 'E' then
        let c1 := c.next
        let (sign, c2) := match c1.rest with
          | '+' :: _ => (['+'], c1.next)
          | '-' :: _ => (['-'], c1.next)
          | _ => ([], c1)
        match hardened (zeroDigits c2) with
        | .ok (ds, c3) => .ok ([x] ++ sign ++ ds, c3)
        | .error f => .error f
      else soft c []
    | [] => soft c []
  match exponent c with
  | .ok r => .ok r
  | .error f =>
    if f.hard then .error f
    else match c.rest with
      | '.' :: _ =>
        match within [.expected "digit"] (hardened (zeroDigits c.next)) with
        | .error f => .error f
        | .ok (ds, c2) =>
          match exponent c2 with
          | .ok (es, c3) => .ok (['.'] ++ ds ++ es, c3)
          | .error f => if f.hard then .error f else .ok (['.'] ++ ds, c2)
      | _ => soft c []

/-- Reads `inf` or `nan` after an optional sign. -/
def specialFloat (c : Cursor) : Except Fail (String × Cursor) :=
  let (neg, c1) := match c.rest with
    | '+' :: _ => (false, c.next)
    | '-' :: _ => (true, c.next)
    | _ => (false, c)
  if c1.startsWith ['i', 'n', 'f'] then .ok ((if neg then "-inf" else "inf"), c1.skip 3)
  else if c1.startsWith ['n', 'a', 'n'] then .ok ("NaN", c1.skip 3)
  else soft c1 []

/-- Reads a float. -/
def floatValue (c : Cursor) : Except Fail (String × Cursor) :=
  within [.label "floating-point number"] (
    match decimalText c with
    | .error f =>
      if f.hard then .error f
      else specialFloat c
    | .ok (ip, c1) =>
      match floatTail c1 with
      | .ok (tail, c2) =>
        match floatOfText (ip ++ tail) with
        | some t => .ok (t, c2)
        | none => hardAt c []
      | .error f => if f.hard then .error f else specialFloat c)

/-- Reads exactly `n` digits. -/
def fixedDigits (n : Nat) (c : Cursor) : Except Fail ((List Char) × Cursor) :=
  let ds := (c.span Char.isDigit).take n
  if ds.length = n then .ok (ds, c.skip n) else soft c []

/-- Reads `n` digits whose value lies in a range. -/
def rangedDigits (n lo hi : Nat) (c : Cursor) : Except Fail ((List Char) × Cursor) := do
  let (ds, c1) ← fixedDigits n c
  let v := (decimalValue ds).toNat
  if lo ≤ v && v ≤ hi then .ok (ds, c1) else .error ⟨c.pos, false, [], some "value is out of range"⟩

/-- Reads a character that must be `x`. -/
def exact (x : Char) (c : Cursor) : Except Fail (Unit × Cursor) :=
  match c.rest with
  | y :: _ => if y = x then .ok ((), c.next) else soft c []
  | [] => soft c []

/-- Reads a time: hours, minutes, seconds and an optional fraction. -/
def partialTime (c : Cursor) : Except Fail ((List Char) × Cursor) := do
  let (h, c1) ← rangedDigits 2 0 23 c
  let ((), c2) ← exact ':' c1
  hardened (do
    let (m, c3) ← rangedDigits 2 0 59 c2
    let ((), c4) ← exact ':' c3
    let (s, c5) ← rangedDigits 2 0 60 c4
    match c5.rest with
    | '.' :: _ =>
      let frac := c5.next.span Char.isDigit
      if frac.isEmpty then .ok (h ++ [':'] ++ m ++ [':'] ++ s, c5)
      else .ok (h ++ [':'] ++ m ++ [':'] ++ s ++ ['.'] ++ frac, c5.next.skip frac.length)
    | _ => .ok (h ++ [':'] ++ m ++ [':'] ++ s, c5))

/-- Reads a time offset: `Z` or a signed hour and minute. -/
def timeOffset (c : Cursor) : Except Fail ((List Char) × Cursor) :=
  within [.label "time offset"] (match c.rest with
    | x :: _ =>
      if x = 'Z' || x = 'z' then .ok ([x], c.next)
      else if x = '+' || x = '-' then
        hardened (do
          let (h, c1) ← rangedDigits 2 0 23 c.next
          let ((), c2) ← exact ':' c1
          let (m, c3) ← rangedDigits 2 0 59 c2
          .ok ([x] ++ h ++ [':'] ++ m, c3))
      else soft c []
    | [] => soft c [])

/-- Reads a date, a time, or a date and a time with an optional offset. -/
def dateTime (c : Cursor) : Except Fail (String × Cursor) :=
  within [.label "date-time"] (
    let dated : Except Fail ((List Char) × Cursor) := do
      let (y, c1) ← fixedDigits 4 c
      let ((), c2) ← exact '-' c1
      let (md, c5) ← hardened (do
        let (m, c3) ← rangedDigits 2 1 12 c2
        let ((), c4) ← exact '-' c3
        let (d, c5) ← rangedDigits 2 1 31 c4
        .ok (m ++ ['-'] ++ d, c5))
      let date := y ++ ['-'] ++ md
      match c5.rest with
      | x :: _ =>
        if x = 'T' || x = 't' || x = ' ' then
          match partialTime c5.next with
          | .ok (t, c6) =>
            match timeOffset c6 with
            | .ok (o, c7) => .ok (date ++ [x] ++ t ++ o, c7)
            | .error f => if f.hard then .error f else .ok (date ++ [x] ++ t, c6)
          | .error f => if f.hard then .error f else .ok (date, c5)
        else .ok (date, c5)
      | [] => .ok (date, c5)
    match dated with
    | .ok (t, c') => .ok (String.ofList t, c')
    | .error f =>
      if f.hard then .error f
      else (partialTime c).map fun (t, c') => (String.ofList t, c'))

/-- Whether a character starts a number or a date. -/
def startsNumber (x : Char) : Bool :=
  x = '+' || x = '-' || x.isDigit

/-- Reads a number or a date: a date or time, a float, or an integer, the first that fits. -/
def numberValue (c : Cursor) : Except Fail (Value × Cursor) :=
  let spanOf := fun (c' : Cursor) => (⟨c.pos, c'.pos⟩ : Span)
  match dateTime c with
  | .ok (t, c') => .ok (.datetime t (spanOf c'), c')
  | .error f =>
    if f.hard then .error f
    else match floatValue c with
      | .ok (t, c') => .ok (.float t (spanOf c'), c')
      | .error f =>
        if f.hard then .error f
        else (integer c).map fun (n, c') => (.integer n (spanOf c'), c')

/-- What a value that cannot start here is reported as. -/
def notAValue : List Ctx :=
  [.label "string", expectChar '"', expectChar '\'']

/-- Reads a keyword such as `true`; the cursor stands on its first letter. -/
def keyword (word : List Char) (v : Value) (strict : Bool) (c : Cursor) : Except Fail (Value × Cursor) :=
  if c.startsWith word then .ok (v, c.skip word.length)
  else if strict then hardAt c notAValue else soft c notAValue

/-! ## Values -/

/-- Inserts a dotted key's value into inline-table entries. -/
def insertInline : List String → Value → List (String × Value) → Except String (List (String × Value))
  | [], _, es => .ok es
  | [k], v, es =>
    if es.any (·.1 = k) then .error ("duplicate key `" ++ k ++ "`") else .ok (es ++ [(k, v)])
  | k :: ks, v, es =>
    match es.find? (·.1 = k) with
    | none => do
      let sub ← insertInline ks v []
      .ok (es ++ [(k, .inline sub ⟨0, 0⟩)])
    | some (_, .inline sub sp) => do
      let sub' ← insertInline ks v sub
      .ok (es.map fun e => if e.1 = k then (k, .inline sub' sp) else e)
    | some (_, w) =>
      .error ("dotted key `" ++ k ++ "` attempted to extend non-table type (" ++ w.typeName ++ ")")

/-- The entries of an inline table from its dotted keys and values, in order; a key given twice
fails. -/
def inlineOfEntries (entries : List (List String × Value)) : Except String (List (String × Value)) :=
  entries.foldlM (fun acc (path, v) => insertInline path v acc) []


mutual

/-- Reads a value. -/
def value : Nat → Cursor → Except Fail (Value × Cursor)
  | 0, c => hardAt c [.label "value"]
  | n + 1, c =>
    let spanOf := fun (c' : Cursor) => (⟨c.pos, c'.pos⟩ : Span)
    match c.rest with
    | [] => soft c []
    | x :: _ =>
      if x = '"' || x = '\'' then (stringValue c).map fun (s, c') => (.string s (spanOf c'), c')
      else if x = '[' then array n c
      else if x = '{' then inlineTable n c
      else if startsNumber x then numberValue c
      else if x = '_' then
        within [.expected "leading digit"] ((integer c).map fun (v, c') => (.integer v (spanOf c'), c'))
      else if x = '.' then
        within [.expected "leading digit"] ((floatValue c).map fun (v, c') => (.float v (spanOf c'), c'))
      else if x = 't' then
        (keyword ['t', 'r', 'u', 'e'] (.boolean true ⟨c.pos, c.pos + 4⟩) true c)
      else if x = 'f' then
        (keyword ['f', 'a', 'l', 's', 'e'] (.boolean false ⟨c.pos, c.pos + 5⟩) true c)
      else if x = 'i' then
        (keyword ['i', 'n', 'f'] (.float "inf" ⟨c.pos, c.pos + 3⟩) false c)
      else if x = 'n' then
        (keyword ['n', 'a', 'n'] (.float "NaN" ⟨c.pos, c.pos + 3⟩) false c)
      else soft c notAValue

/-- Reads one array item with the blanks, comments and line breaks around it. -/
def arrayItem : Nat → Cursor → Except Fail (Value × Cursor)
  | 0, c => hardAt c [.label "value"]
  | n + 1, c => do
    let c1 ← blanksCommentsLines (c.rest.length + 1) c
    let (v, c2) ← value n c1
    let c3 ← blanksCommentsLines (c2.rest.length + 1) c2
    .ok (v, c3)

/-- Reads array items after the first, each after a comma. -/
def arrayItems : Nat → Cursor → List Value → Except Fail ((List Value) × Cursor)
  | 0, c, acc => .ok (acc, c)
  | n + 1, c, acc =>
    match c.rest with
    | ',' :: _ =>
      match arrayItem n c.next with
      | .ok (v, c') => arrayItems n c' (acc ++ [v])
      | .error f => if f.hard then .error f else .ok (acc, c)
    | _ => .ok (acc, c)

/-- Reads an array; the cursor stands on its `[`. -/
def array : Nat → Cursor → Except Fail (Value × Cursor)
  | 0, c => hardAt c [.label "array"]
  | n + 1, c => do
    let c1 := c.next
    let (items, c2) ← hardened (match c1.rest with
      | ']' :: _ => .ok ([], c1)
      | _ =>
        match arrayItem n c1 with
        | .error f => if f.hard then .error f else .ok ([], c1)
        | .ok (v, c') => do
          let (vs, c'') ← arrayItems n c' [v]
          let c''' := match c''.rest with
            | ',' :: _ => c''.next
            | _ => c''
          .ok (vs, c'''))
    let c3 ← hardened (blanksCommentsLines (c2.rest.length + 1) c2)
    match c3.rest with
    | ']' :: _ => .ok (.array items ⟨c.pos, c3.next.pos⟩, c3.next)
    | _ => hardAt c3 [.label "array", expectChar ']']

/-- Reads `key = value` inside an inline table. -/
def inlineEntry : Nat → Cursor → Except Fail ((List String × Value) × Cursor)
  | 0, c => hardAt c [.label "inline table"]
  | n + 1, c => do
    let (path, c1) ← dottedKey c
    match c1.rest with
    | '=' :: _ =>
      let (v, c2) ← hardened (value n (blanks c1.next))
      .ok ((path, v), blanks c2)
    | _ => hardAt c1 [expectChar '.', expectChar '=']

/-- Reads inline-table entries after the first, each after a comma. -/
def inlineEntries : Nat → Cursor → List (List String × Value) → Except Fail ((List (List String × Value)) × Cursor)
  | 0, c, acc => .ok (acc, c)
  | n + 1, c, acc =>
    match c.rest with
    | ',' :: _ =>
      match inlineEntry n c.next with
      | .ok (e, c') => inlineEntries n c' (acc ++ [e])
      | .error f => if f.hard then .error f else .ok (acc, c)
    | _ => .ok (acc, c)

/-- Reads an inline table; the cursor stands on its `{`. -/
def inlineTable : Nat → Cursor → Except Fail (Value × Cursor)
  | 0, c => hardAt c [.label "inline table"]
  | n + 1, c => do
    let c1 := c.next
    let (entries, c2) ← match inlineEntry n c1 with
      | .error f => if f.hard then .error f else .ok ([], c1)
      | .ok (e, c') => inlineEntries n c' [e]
    let c3 := blanks c2
    match inlineOfEntries entries with
    | .error why => hardCause c1 why
    | .ok table =>
      match c3.rest with
      | '}' :: _ => .ok (.inline table ⟨c.pos, c3.next.pos⟩, c3.next)
      | _ => hardAt c3 [.label "inline table", expectChar '}']

end

end ScoreKeeper.Toml
