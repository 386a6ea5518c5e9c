/-!
# ScoreKeeper — binary64 numbers

A JSON number with a fraction or an exponent is read as an IEEE 754 binary64 number, without the
runtime's floating point: a magnitude is kept exactly as the format stores it, `mant * 2 ^ exp`, and
every operation rounds the exact rational result to the nearest magnitude, ties to even.

* **Reading** follows the fast path of the JSON reader: the decimal significand (at most 64 bits)
  is rounded to binary64, then multiplied by the binary64 power of ten for a non-negative
  exponent, or divided by it for a negative one, dividing by `1e308` first while the exponent is
  beyond the table. Each step rounds once, so the result can differ from the correctly rounded
  value; a product that rounds beyond the greatest finite number is out of range.
* **Writing** gives the shortest digits that read back as the same number, the closest of them to
  it, plainly for moderate exponents (`0.001`, `1.5`, `100.0`) and with an exponent otherwise
  (`1e21`, `1.5e-7`).
-/

namespace ScoreKeeper.Binary64

/-- A finite non-negative binary64 magnitude `mant * 2 ^ exp`: `mant` has at most 53 bits, and
exactly 53 unless `exp` is the least exponent, where zero and the subnormal numbers live. -/
structure Magnitude where
  mant : Nat
  exp : Int
  deriving DecidableEq, Repr

/-- The exponent of the subnormal numbers. -/
def leastExp : Int := -1074

/-- The exponent of the greatest finite numbers. -/
def greatestExp : Int := 971

/-- The power `2 ^ n` for the natural part of an integer. -/
def pow2 (n : Int) : Nat := Nat.pow 2 n.toNat

/-- Whether `p / q ≥ 2 ^ t`. -/
def atLeastPow2 (p q : Nat) (t : Int) : Bool :=
  if 0 ≤ t then decide (q * pow2 t ≤ p) else decide (q ≤ p * pow2 (-t))

/-- The exponent `t` with `2 ^ t ≤ p / q < 2 ^ (t + 1)`, for positive `p` and `q`: the difference
of the bit lengths, or one less. -/
def log2Ratio (p q : Nat) : Int :=
  let t : Int := (Nat.log2 p : Int) - (Nat.log2 q : Int)
  if atLeastPow2 p q t then t else t - 1

/-- `num / den` rounded to the nearest natural number, ties to even. -/
def roundHalfEven (num den : Nat) : Nat :=
  let m := num / den
  let r := num % den
  if 2 * r > den || (2 * r = den && m % 2 = 1) then m + 1 else m

/-- The magnitude nearest to `p / q`, ties to even, or `none` when that is beyond the greatest
finite magnitude. The exponent is chosen so that the significand has 53 bits, or is the least one;
a significand that rounds up to `2 ^ 53` moves to the next exponent. -/
def nearest (p q : Nat) : Option Magnitude :=
  if p = 0 || q = 0 then some ⟨0, leastExp⟩
  else
    let e := max (log2Ratio p q - 52) leastExp
    let m := if 0 ≤ e then roundHalfEven p (q * pow2 e) else roundHalfEven (p * pow2 (-e)) q
    let (m, e) := if m = Nat.pow 2 53 then (Nat.pow 2 52, e + 1) else (m, e)
    if e > greatestExp then none else some ⟨m, e⟩

/-- The magnitude nearest to a natural number. -/
def ofNat (n : Nat) : Option Magnitude :=
  nearest n 1

/-- The rounded product of two magnitudes. -/
def mul (x y : Magnitude) : Option Magnitude :=
  let e := x.exp + y.exp
  if 0 ≤ e then nearest (x.mant * y.mant * pow2 e) 1 else nearest (x.mant * y.mant) (pow2 (-e))

/-- The rounded quotient of two magnitudes. -/
def div (x y : Magnitude) : Option Magnitude :=
  let e := x.exp - y.exp
  if 0 ≤ e then nearest (x.mant * pow2 e) y.mant else nearest x.mant (y.mant * pow2 (-e))

/-- The binary64 power of ten `10 ^ i`, for `i ≤ 308`. -/
def powTen (i : Nat) : Magnitude :=
  (nearest (Nat.pow 10 i) 1).getD ⟨0, leastExp⟩

/-- Scales by a power of ten as the reader does, with fuel for the steps of `1e308`. -/
def scaleByTen : Nat → Magnitude → Int → Option Magnitude
  | 0, f, _ => some f
  | fuel + 1, f, e =>
    if e.natAbs ≤ 308 then
      if 0 ≤ e then mul f (powTen e.toNat) else div f (powTen e.natAbs)
    else if f.mant = 0 then some f
    else if 0 ≤ e then none
    else match div f (powTen 308) with
      | some g => scaleByTen fuel g (e + 308)
      | none => none

/-- The magnitude the reader makes of `significand * 10 ^ exponent`, or `none` when it is out of
range. -/
def ofDecimal (significand : Nat) (exponent : Int) : Option Magnitude :=
  match ofNat significand with
  | some f => scaleByTen (exponent.natAbs / 308 + 2) f exponent
  | none => none

/-- The number of decimal digits of a positive number. -/
def decimalLength (n : Nat) : Nat :=
  (toString n).length

/-- Whether `s * 10 ^ k` lies above `high`: strictly when the bounds are included, or at least
reaching it otherwise. -/
def scaledBelow (inclusive : Bool) (high s : Nat) (k : Int) : Bool :=
  let (lhs, rhs) := if 0 ≤ k then (high, s * Nat.pow 10 k.toNat) else (high * Nat.pow 10 (-k).toNat, s)
  if inclusive then decide (lhs < rhs) else decide (lhs ≤ rhs)

/-- The digits of a number between two bounds: one digit per round, stopping as soon as the digits
so far, or the digits so far with the last one raised, lie within the bounds. Answers the digits
and whether the last one is to be raised: when both lie within, the nearer one is taken, and the
even one at a tie. -/
def digitsWithin (scale : Nat) (inclusive : Bool) : Nat → Nat → Nat → Nat → List Nat → List Nat × Bool
  | 0, _, _, _, acc => (acc.reverse, false)
  | fuel + 1, r, minus, plus, acc =>
    let d := r / scale
    let rest := r % scale
    let down := if inclusive then rest ≤ minus else rest < minus
    let up := if inclusive then scale ≤ rest + plus else scale < rest + plus
    if down || up then
      ((d :: acc).reverse, up && (!down || scale < 2 * rest || (scale = 2 * rest && d % 2 = 1)))
    else digitsWithin scale inclusive fuel (10 * rest) (10 * minus) (10 * plus) (d :: acc)

/-- Adds one to digits given least significant first; answers the carry out. -/
def increment : List Nat → List Nat × Bool
  | [] => ([], true)
  | d :: ds =>
    if d = 9 then
      let (ds', carry) := increment ds
      (0 :: ds', carry)
    else ((d + 1) :: ds, false)

/-- The shortest digits of a positive magnitude that read back as it, the nearest of them, and the
decimal exponent `k` with the magnitude about `0.d₁d₂…dₙ * 10 ^ k`. The bounds are halfway to the
neighbouring magnitudes, included when the significand is even; below a power of two other than
the least normal one the lower neighbour is half as far. -/
def shortest (x : Magnitude) : List Nat × Int :=
  let inclusive := x.mant % 2 = 0
  let (m, e, minus, plus) :=
    if x.mant = Nat.pow 2 52 && x.exp > leastExp then (4 * x.mant, x.exp - 2, 1, 2)
    else (2 * x.mant, x.exp - 1, 1, 1)
  let (r, minus, plus, s) :=
    if 0 ≤ e then (m * pow2 e, minus * pow2 e, plus * pow2 e, 1) else (m, minus, plus, pow2 (-e))
  let k0 : Int := (decimalLength (r + plus) : Int) - (decimalLength s : Int)
  let k := if scaledBelow inclusive (r + plus) s k0 then k0 else k0 + 1
  let (r, minus, plus, scale) :=
    if 0 ≤ k then (r, minus, plus, s * Nat.pow 10 k.toNat)
    else (r * Nat.pow 10 (-k).toNat, minus * Nat.pow 10 (-k).toNat, plus * Nat.pow 10 (-k).toNat, s)
  let (digits, raise) := digitsWithin scale inclusive 40 (10 * r) (10 * minus) (10 * plus) []
  if raise then
    let (raised, carry) := increment digits.reverse
    if carry then (1 :: raised.reverse, k + 1) else (raised.reverse, k)
  else (digits, k)

/-- Digits as text. -/
def digitText (ds : List Nat) : String :=
  String.ofList (ds.map fun d => Char.ofNat (48 + d))

/-- A run of zeros. -/
def zeros (n : Nat) : String :=
  String.ofList (List.replicate n '0')

/-- A number as the shortest text that reads back as it. With the decimal exponent `k` of
`0.d₁d₂…dₙ * 10 ^ k`, a number below `10 ^ 16` and at least `10 ^ -5` is written plainly, a whole
one with `.0` after it (`100.0`, `1.5`, `0.001`); any other is written `d₁.d₂…dₙe(k-1)`, without
the point when there is one digit (`1e21`, `1.5e-7`). A negative number, negative zero included,
has a minus sign. -/
def text (negative : Bool) (x : Magnitude) : String :=
  let sign := if negative then "-" else ""
  if x.mant = 0 then sign ++ "0.0"
  else
    let (ds, k) := shortest x
    let n : Int := ds.length
    let body :=
      if n ≤ k && k ≤ 16 then digitText ds ++ zeros (k - n).toNat ++ ".0"
      else if 0 < k && k ≤ 16 then digitText (ds.take k.toNat) ++ "." ++ digitText (ds.drop k.toNat)
      else if -5 < k && k ≤ 0 then "0." ++ zeros k.natAbs ++ digitText ds
      else
        let mantissa := match ds with
          | [d] => digitText [d]
          | d :: rest => digitText [d] ++ "." ++ digitText rest
          | [] => "0"
        mantissa ++ "e" ++ toString (k - 1)
    sign ++ body

end ScoreKeeper.Binary64
