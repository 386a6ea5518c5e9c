/-!
# ScoreKeeper — Punycode

The bootstring encoding of RFC 3492 with its Punycode parameters (base 36, thresholds 1 and 26,
skew 38, damping 700, initial bias 72, initial code point 128). A label's ASCII characters are
copied first, followed by `-` when there are any; each other code point, in increasing order, is
then written as the distance from the last insertion in a variable-length base-36 number whose
digit thresholds follow an adaptive bias.

Every loop has a measure: the bias loop and the digit writer divide their number, the encoder
walks the sorted list of code points, and the decoder's digit reader consumes its input.
-/

namespace ScoreKeeper.Net.Punycode

/-- The character of a digit: `a`–`z` for 0–25, `0`–`9` for 26–35. -/
def digitChar (d : Nat) : Char :=
  if d < 26 then Char.ofNat ('a'.toNat + d) else Char.ofNat ('0'.toNat + d - 26)

/-- The value of a digit character, of either case. -/
def digitValue? (c : Char) : Option Nat :=
  if 'a' ≤ c && c ≤ 'z' then some (c.toNat - 'a'.toNat)
  else if 'A' ≤ c && c ≤ 'Z' then some (c.toNat - 'A'.toNat)
  else if '0' ≤ c && c ≤ '9' then some (c.toNat - '0'.toNat + 26)
  else none

/-- The threshold of the digit at position `k` (a multiple of 36) under a bias. -/
def threshold (k bias : Nat) : Nat :=
  if k ≤ bias then 1 else if bias + 26 ≤ k then 26 else k - bias

theorem threshold_pos (k bias : Nat) : 1 ≤ threshold k bias := by
  unfold threshold; split <;> (try split) <;> omega

theorem threshold_le (k bias : Nat) : threshold k bias ≤ 26 := by
  unfold threshold; split <;> (try split) <;> omega

/-- Divides `delta` by 35 until it is at most 455, counting 36 for each division. -/
def scaleDown (delta k : Nat) : Nat × Nat :=
  if 455 < delta then scaleDown (delta / 35) (k + 36) else (delta, k)
termination_by delta
decreasing_by omega

/-- The bias after an insertion that moved `delta` over `points` code points. -/
def adapt (delta points : Nat) (first : Bool) : Nat :=
  let d := if first then delta / 700 else delta / 2
  let (d', k) := scaleDown (d + d / points) 0
  k + 36 * d' / (d' + 38)

/-- The digits of `q`, starting at position `k`. -/
def encodeNumber (bias k q : Nat) : List Char :=
  let t := threshold k bias
  if q < t then [digitChar q]
  else digitChar (t + (q - t) % (36 - t)) :: encodeNumber bias (k + 36) ((q - t) / (36 - t))
termination_by q
decreasing_by
  have h1 := threshold_pos k bias
  have h2 := threshold_le k bias
  have : (q - threshold k bias) / (36 - threshold k bias) ≤ q - threshold k bias :=
    Nat.div_le_self _ _
  omega

/-- What the encoder carries between code points. -/
structure Encoder where
  out : List Char
  delta : Nat
  bias : Nat
  placed : Nat

/-- Passes one input character while inserting the code point `m`; `basic` is the number of
ASCII characters. -/
def Encoder.pass (basic m : Nat) (e : Encoder) (c : Char) : Encoder :=
  if c.toNat < m then { e with delta := e.delta + 1 }
  else if c.toNat = m then
    { out := e.out ++ encodeNumber e.bias 36 e.delta, delta := 0,
      bias := adapt e.delta (e.placed + 1) (e.placed = basic), placed := e.placed + 1 }
  else e

/-- Inserts the code points `ms`, in increasing order, from the code point `n` on. -/
def Encoder.insertAll (input : List Char) (basic : Nat) : List Nat → Nat → Encoder → Encoder
  | [], _, e => e
  | m :: ms, n, e =>
    let e1 := { e with delta := e.delta + (m - n) * (e.placed + 1) }
    let e2 := input.foldl (Encoder.pass basic m) e1
    Encoder.insertAll input basic ms (m + 1) { e2 with delta := e2.delta + 1 }

/-- Inserts a number into an increasing list without duplicates. -/
def insertSorted (x : Nat) : List Nat → List Nat
  | [] => [x]
  | y :: ys => if x < y then x :: y :: ys else if x = y then y :: ys else y :: insertSorted x ys

/-- The Punycode of a label. -/
def encode (input : List Char) : String :=
  let basics := input.filter fun c => c.toNat < 128
  let others := input.foldl (fun acc c => if c.toNat < 128 then acc else insertSorted c.toNat acc) []
  let start : Encoder := { out := [], delta := 0, bias := 72, placed := basics.length }
  let e := Encoder.insertAll input basics.length others 128 start
  String.ofList (basics ++ (if basics.isEmpty then [] else ['-']) ++ e.out)

/-- Reads one variable-length number from position `k` on, adding to `i` with weight `w`. -/
def decodeNumber (bias k w i : Nat) : List Char → Option (Nat × List Char)
  | [] => none
  | c :: rest => do
    let d ← digitValue? c
    let i' := i + d * w
    if 4294967296 ≤ i' then none
    else
      let t := threshold k bias
      if d < t then some (i', rest) else decodeNumber bias (k + 36) (w * (36 - t)) i' rest

/-- Inserts decoded code points into `out` while input is left; every round reads at least one
character, so `fuel` at the input's length suffices. -/
def decodeRounds : Nat → List Char → List Char → Nat → Nat → Nat → Option (List Char)
  | 0, _, out, _, _, _ => some out
  | fuel + 1, input, out, n, i, bias =>
    if input.isEmpty then some out
    else do
      let (i1, rest) ← decodeNumber bias 36 1 i input
      let len := out.length + 1
      let bias' := adapt (i1 - i) len (i = 0)
      let n' := n + i1 / len
      let pos := i1 % len
      if 0x10FFFF < n' || (0xD800 ≤ n' && n' ≤ 0xDFFF) || n' < 128 then none
      else
        decodeRounds fuel rest (out.take pos ++ [Char.ofNat n'] ++ out.drop pos) n' (pos + 1) bias'

/-- The label that a Punycode text stands for, if it is well formed. -/
def decode (input : List Char) : Option (List Char) :=
  let (basic, rest) := match input.reverse.idxOf? '-' with
    | some j => (input.take (input.length - 1 - j), input.drop (input.length - j))
    | none => ([], input)
  if basic.any (fun c => 128 ≤ c.toNat) then none
  else decodeRounds rest.length rest basic 128 0 72

end ScoreKeeper.Net.Punycode
