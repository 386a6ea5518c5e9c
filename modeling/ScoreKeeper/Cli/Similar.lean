/-!
# ScoreKeeper — similar names

Suggestions for mistyped names use the Jaro similarity of two character sequences: with `m`
characters that match (equal, not yet matched, and at most `max(|a|, |b|) / 2 - 1` places apart)
and `t` half the number of matched characters out of order, it is
`(m / |a| + m / |b| + (m - t) / m) / 3`, and `0` when nothing matches. The value is kept as an
exact fraction, so comparisons with the threshold `7 / 10` and between candidates are exact.
-/

namespace ScoreKeeper.Cli

/-- A similarity as the fraction `num / den` with `0 < den`. -/
structure Score where
  num : Nat
  den : Nat

/-- Whether one similarity is at most another. -/
def Score.le (a b : Score) : Bool :=
  a.num * b.den ≤ b.num * a.den

/-- Marks the first unmarked position of `b` in `[lo, hi)` that holds `c`. -/
def claim (c : Char) (lo hi : Nat) : List Char → List Bool → Nat → Option (List Bool)
  | [], _, _ => none
  | _, [], _ => none
  | x :: xs, f :: fs, j =>
    if lo ≤ j && j < hi && x = c && !f then some (true :: fs)
    else (claim c lo hi xs fs (j + 1)).map (f :: ·)

/-- Matches the characters of `a` from position `i` against `b`, marking both sides. -/
def matchAll (b : List Char) (range : Nat) : List Char → Nat → List Bool → List Bool × List Bool
  | [], _, bf => ([], bf)
  | c :: cs, i, bf =>
    let lo := i - range
    let hi := min b.length (i + range + 1)
    match claim c lo hi b bf 0 with
    | some bf' =>
      let (af, bf'') := matchAll b range cs (i + 1) bf'
      (true :: af, bf'')
    | none =>
      let (af, bf'') := matchAll b range cs (i + 1) bf
      (false :: af, bf'')

/-- The matched characters of a sequence, in order. -/
def matched (cs : List Char) (flags : List Bool) : List Char :=
  (cs.zip flags).filterMap fun p => if p.2 then some p.1 else none

/-- The Jaro similarity of two sequences. -/
def jaro (a b : List Char) : Score :=
  if a.isEmpty && b.isEmpty then ⟨1, 1⟩
  else if a.isEmpty || b.isEmpty then ⟨0, 1⟩
  else
    let range := max a.length b.length / 2 - 1
    let (af, bf) := matchAll b range a 0 (List.replicate b.length false)
    let ma := matched a af
    let mb := matched b bf
    let m := ma.length
    if m = 0 then ⟨0, 1⟩
    else
      let t := ((ma.zip mb).filter fun p => p.1 ≠ p.2).length / 2
      ⟨m * b.length * m + m * a.length * m + (m - t) * a.length * b.length,
        3 * a.length * b.length * m⟩

/-- The names similar to `v` (similarity above `7 / 10`), least similar first; names equally
similar keep their order. -/
def similarNames (v : String) (names : List String) : List String :=
  let scored := names.filterMap fun n =>
    let s := jaro v.toList n.toList
    if 7 * s.den < 10 * s.num then some (s, n) else none
  (scored.mergeSort fun x y => x.1.le y.1).map (·.2)

/-- The name most similar to `v`, if any is similar enough: the last of `similarNames`. -/
def closestName? (v : String) (names : List String) : Option String :=
  (similarNames v names).getLast?

end ScoreKeeper.Cli
