import ScoreKeeper.Json.Value

/-!
# ScoreKeeper — reading JSON

A plain reader of JSON text into `Json`, for well-formed input: it answers `none` on any fault
and says nothing of where. Escapes `\uXXXX` join surrogate pairs; a lone surrogate becomes U+FFFD.
Numbers without a fraction or an exponent are read exactly as integers. Nesting is bounded by
the length of the text, which is the fuel of the recursion.
-/

namespace ScoreKeeper.Json

/-- Drops JSON blanks: space, tab, line feed and carriage return. -/
def skipBlank : List Char → List Char
  | [] => []
  | c :: cs => if c = ' ' || c = '\t' || c = '\n' || c = '\r' then skipBlank cs else c :: cs

/-- The value of a hex digit. -/
def hexValue? (c : Char) : Option Nat :=
  if '0' ≤ c && c ≤ '9' then some (c.toNat - '0'.toNat)
  else if 'a' ≤ c && c ≤ 'f' then some (c.toNat - 'a'.toNat + 10)
  else if 'A' ≤ c && c ≤ 'F' then some (c.toNat - 'A'.toNat + 10)
  else none

/-- The value of four hex digits. -/
def hex4? (a b c d : Char) : Option Nat := do
  let a ← hexValue? a
  let b ← hexValue? b
  let c ← hexValue? c
  let d ← hexValue? d
  pure (((a * 16 + b) * 16 + c) * 16 + d)

/-- The character of a short escape. -/
def shortEscape? : Char → Option Char
  | '"' => some '"'
  | '\\' => some '\\'
  | '/' => some '/'
  | 'b' => some '\x08'
  | 'f' => some '\x0c'
  | 'n' => some '\n'
  | 'r' => some '\r'
  | 't' => some '\t'
  | _ => none

/-- Reads the rest of a string after its opening quote; `acc` holds what was read, reversed. -/
def readString (acc : List Char) : List Char → Option (String × List Char)
  | [] => none
  | '"' :: rest => some (String.ofList acc.reverse, rest)
  | '\\' :: 'u' :: a :: b :: c :: d :: rest =>
    match hex4? a b c d with
    | none => none
    | some u =>
      if 0xD800 ≤ u && u < 0xDC00 then
        match _hr : rest with
        | '\\' :: 'u' :: e :: f :: g :: h :: rest2 =>
          match hex4? e f g h with
          | some v =>
            if 0xDC00 ≤ v && v < 0xE000 then
              readString (Char.ofNat (0x10000 + (u - 0xD800) * 0x400 + (v - 0xDC00)) :: acc) rest2
            else readString ('�' :: acc) rest
          | none => none
        | _ => readString ('�' :: acc) rest
      else if 0xDC00 ≤ u && u < 0xE000 then readString ('�' :: acc) rest
      else readString (Char.ofNat u :: acc) rest
  | '\\' :: e :: rest =>
    match shortEscape? e with
    | some c => readString (c :: acc) rest
    | none => none
  | c :: rest => if c.toNat < 0x20 then none else readString (c :: acc) rest
termination_by cs => cs.length
decreasing_by all_goals (try subst_vars); all_goals (simp; try omega)

/-- Reads a number: an optional minus, digits, an optional fraction and exponent. -/
def readNumber (cs : List Char) : Option (Json × List Char) :=
  let (sign, cs1) := match cs with
    | '-' :: r => (true, r)
    | r => (false, r)
  let digits := cs1.takeWhile Char.isDigit
  let cs2 := cs1.dropWhile Char.isDigit
  if digits.isEmpty then none
  else
    let (frac, cs3) := match cs2 with
      | '.' :: r => ('.' :: r.takeWhile Char.isDigit, r.dropWhile Char.isDigit)
      | r => ([], r)
    let (expo, cs4) := match cs3 with
      | e :: r =>
        if e = 'e' || e = 'E' then
          let (s, r1) := match r with
            | '+' :: r1 => (['+'], r1)
            | '-' :: r1 => (['-'], r1)
            | r1 => ([], r1)
          (e :: s ++ r1.takeWhile Char.isDigit, r1.dropWhile Char.isDigit)
        else ([], e :: r)
      | [] => ([], [])
    if frac.isEmpty && expo.isEmpty then
      let n : Int := digits.foldl (fun a c => a * 10 + (c.toNat - '0'.toNat)) 0
      some (.int (if sign then -n else n), cs2)
    else
      some (.real (String.ofList ((if sign then ['-'] else []) ++ digits ++ frac ++ expo)), cs4)

mutual

/-- Reads one value after blanks. -/
def readValue : Nat → List Char → Option (Json × List Char)
  | 0, _ => none
  | n + 1, cs =>
    match skipBlank cs with
    | 'n' :: 'u' :: 'l' :: 'l' :: rest => some (.null, rest)
    | 't' :: 'r' :: 'u' :: 'e' :: rest => some (.bool true, rest)
    | 'f' :: 'a' :: 'l' :: 's' :: 'e' :: rest => some (.bool false, rest)
    | '"' :: rest => (readString [] rest).map fun r => (.str r.1, r.2)
    | '[' :: rest =>
      match skipBlank rest with
      | ']' :: r => some (.arr [], r)
      | r => readItems n [] r
    | '{' :: rest =>
      match skipBlank rest with
      | '}' :: r => some (.obj [], r)
      | r => readMembers n [] r
    | r => readNumber r

/-- Reads array items up to the closing bracket; `acc` holds the items read, reversed. -/
def readItems : Nat → List Json → List Char → Option (Json × List Char)
  | 0, _, _ => none
  | n + 1, acc, cs =>
    match readValue n cs with
    | none => none
    | some (v, r) =>
      match skipBlank r with
      | ',' :: r' => readItems n (v :: acc) r'
      | ']' :: r' => some (.arr (v :: acc).reverse, r')
      | _ => none

/-- Reads object members up to the closing brace; `acc` holds the members read, reversed. -/
def readMembers : Nat → List (String × Json) → List Char → Option (Json × List Char)
  | 0, _, _ => none
  | n + 1, acc, cs =>
    match skipBlank cs with
    | '"' :: r =>
      match readString [] r with
      | none => none
      | some (k, r1) =>
        match skipBlank r1 with
        | ':' :: r2 =>
          match readValue n r2 with
          | none => none
          | some (v, r3) =>
            match skipBlank r3 with
            | ',' :: r4 => readMembers n ((k, v) :: acc) r4
            | '}' :: r4 => some (.obj ((k, v) :: acc).reverse, r4)
            | _ => none
        | _ => none
    | _ => none

end

/-- Reads a whole JSON text, blanks around it allowed. -/
def parse? (s : String) : Option Json :=
  let cs := s.toList
  match readValue (2 * cs.length + 2) cs with
  | some (v, rest) => if (skipBlank rest).isEmpty then some v else none
  | none => none

end ScoreKeeper.Json
