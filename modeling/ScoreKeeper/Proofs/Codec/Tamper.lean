import Mathlib
import ScoreKeeper.Proofs.Codec.LineChecks

/-!
# ScoreKeeper — tampered lines fail their checksum

A stored line carries the checksum of its record, so a line whose record was changed after it
was written no longer verifies. Two kinds of change are always caught, under every key:

* the points of a score replaced by any other 32-bit integer, however its numeral is written;
* one byte of a name or of a pack text changed, keeping the field valid and its length.

The checksum is `acc * 33 + b` folded over the bytes, from the secret times the sign-extended
points, all modulo `2 ^ 64`. Both kinds of change come down to one fact: multiplying by an odd
word is injective modulo `2 ^ 64`. The secret is odd, and so is 33, so the fold forgets nothing
of where it started, and a single byte `x` replaced by `y` shifts one step by `y - x`, which the
following steps carry through unchanged. Two bytes changed at once can cancel: the law is about
one.

## The architecture

* **`UInt64.mul_left_cancel_of_odd`** — an odd factor cancels, through `Nat.ModEq` and
  coprimality with `2 ^ 64`.
* **`foldBytes_injective`**, **`foldBytes_ne_of_oneByteApart`** — the fold keeps its start, and
  one changed byte changes it.
* **`ChecksumKey.ofScore_ne_of_points`**, **`ChecksumKey.ofScore_ne_of_name`**,
  **`ChecksumKey.ofNote_ne_of_text`** — the checksums of changed records differ.
* **`tampered_lines_fail_checksum`** — the changed lines read back through the checks of
  `decodeLine_of_score` and `decodeLine_of_note` to a checksum mismatch.
-/

namespace ScoreKeeper

/-! ## Odd factors modulo `2 ^ 64` -/

/-- **An odd factor cancels modulo `2 ^ 64`.** -/
theorem UInt64.mul_left_cancel_of_odd {c a b : UInt64} (hc : c % 2 = 1) (h : c * a = c * b) :
    a = b := by
  have hodd : c.toNat % 2 = 1 := by
    have := congrArg UInt64.toNat hc
    simpa [UInt64.toNat_mod] using this
  have hmod : c.toNat * a.toNat ≡ c.toNat * b.toNat [MOD 2 ^ 64] := by
    have := congrArg UInt64.toNat h
    simpa [UInt64.toNat_mul, Nat.ModEq] using this
  -- an odd number is prime to every power of two
  have hcop : Nat.gcd (2 ^ 64) c.toNat = 1 := by
    apply Nat.Coprime.pow_left
    rw [Nat.coprime_two_left]
    exact Nat.odd_iff.2 hodd
  have hab := Nat.ModEq.cancel_left_of_coprime hcop hmod
  apply UInt64.toNat_inj.1
  unfold Nat.ModEq at hab
  rwa [Nat.mod_eq_of_lt (UInt64.toNat_lt a), Nat.mod_eq_of_lt (UInt64.toNat_lt b)] at hab

/-! ## The fold over bytes -/

/-- Two byte strings that differ in exactly one place, and so have one length. -/
def OneByteApart (a b : List UInt8) : Prop :=
  ∃ pre post x y, x ≠ y ∧ a = pre ++ x :: post ∧ b = pre ++ y :: post

@[simp]
theorem foldBytes_cons (acc : UInt64) (b : UInt8) (bs : List UInt8) :
    foldBytes acc (b :: bs) = foldBytes (acc * 33 + b.toUInt64) bs :=
  rfl

theorem foldBytes_append (acc : UInt64) (xs ys : List UInt8) :
    foldBytes acc (xs ++ ys) = foldBytes (foldBytes acc xs) ys := by
  simp [foldBytes, List.foldl_append]

/-- **The fold forgets nothing of where it started**, since each step multiplies by 33. -/
theorem foldBytes_injective {a b : UInt64} {bs : List UInt8}
    (h : foldBytes a bs = foldBytes b bs) : a = b := by
  induction bs generalizing a b with
  | nil => exact h
  | cons x bs ih =>
    have hstep : a * 33 + x.toUInt64 = b * 33 + x.toUInt64 := ih h
    have h33 : (33 : UInt64) * a = 33 * b := by
      rw [mul_comm 33 a, mul_comm 33 b]
      exact add_right_cancel hstep
    exact UInt64.mul_left_cancel_of_odd (by decide) h33

/-- **One byte changed changes the fold**: the step at the change differs, and the fold of the
rest keeps the difference. -/
theorem foldBytes_ne_of_oneByteApart (acc : UInt64) {bs bs' : List UInt8}
    (h : OneByteApart bs bs') : foldBytes acc bs ≠ foldBytes acc bs' := by
  obtain ⟨pre, post, x, y, hxy, rfl, rfl⟩ := h
  intro heq
  rw [foldBytes_append, foldBytes_append, foldBytes_cons, foldBytes_cons] at heq
  have hstep := foldBytes_injective heq
  exact hxy (UInt8.toUInt64_inj.1 (add_left_cancel hstep))

/-! ## Checksums of changed records -/

theorem widenPoints_injective {p q : Int32} (h : widenPoints p = widenPoints q) : p = q := by
  unfold widenPoints at h
  have h64 : p.toInt64 = q.toInt64 := by
    rw [← Int64.toInt64_toUInt64 p.toInt64, h, Int64.toInt64_toUInt64]
  apply Int32.toInt_inj.1
  rw [← Int32.toInt_toInt64, h64, Int32.toInt_toInt64]

theorem ChecksumKey.ofScore_ne_of_points {k : ChecksumKey} {s s' : Score}
    (hname : s.name = s'.name) (hpoints : s.points ≠ s'.points) : k.ofScore s ≠ k.ofScore s' := by
  intro heq
  unfold ChecksumKey.ofScore at heq
  rw [hname] at heq
  -- the fold keeps its start, and the odd secret keeps the sign-extended points
  have hmul := foldBytes_injective heq
  exact hpoints (widenPoints_injective (UInt64.mul_left_cancel_of_odd k.odd hmul))

theorem ChecksumKey.ofScore_ne_of_name {k : ChecksumKey} {s s' : Score}
    (hpoints : s.points = s'.points) (hname : OneByteApart (Text.utf8 s.name) (Text.utf8 s'.name)) :
    k.ofScore s ≠ k.ofScore s' := by
  unfold ChecksumKey.ofScore
  rw [hpoints]
  exact foldBytes_ne_of_oneByteApart _ hname

theorem ChecksumKey.ofNote_ne_of_text {k : ChecksumKey} {n n' : Note}
    (htext : OneByteApart (Text.utf8 n.text) (Text.utf8 n'.text)) : k.ofNote n ≠ k.ofNote n' :=
  foldBytes_ne_of_oneByteApart _ htext

/-! ## Changed lines -/

theorem Text.length_utf8 (s : String) : (Text.utf8 s).length = s.utf8ByteSize := by
  have hchars : ∀ cs : List Char,
      (cs.flatMap String.utf8EncodeChar).length = (String.ofList cs).utf8ByteSize := by
    intro cs
    induction cs with
    | nil => rfl
    | cons c cs ih =>
      rw [List.flatMap_cons, List.length_append, ih, String.ofList_cons,
        String.utf8ByteSize_append, String.utf8ByteSize_singleton, String.length_utf8EncodeChar]
  rw [Text.utf8, hchars, String.ofList_toList]

theorem utf8ByteSize_eq_of_oneByteApart {a b : String}
    (h : OneByteApart (Text.utf8 a) (Text.utf8 b)) : a.utf8ByteSize = b.utf8ByteSize := by
  obtain ⟨pre, post, x, y, -, ha, hb⟩ := h
  rw [← Text.length_utf8, ← Text.length_utf8, ha, hb]
  simp

/-- The checksum field of a written line is a numeral the checks accept. -/
theorem checksum_field (c : UInt64) :
    delimiter ∉ (toString c.toNat).toList ∧ natNumeral? (toString c.toNat).toList = some c.toNat ∧
      c.toNat < UInt64.size :=
  ⟨delimiter_not_mem_of_natNumeral (natNumeral?_toString _), natNumeral?_toString _,
    UInt64.toNat_lt c⟩

/-- A score line with other points than the stored checksum was made for: too long, or a
mismatch with the checksum of the score it now names. -/
theorem Score.decodeLine_other_points (k : ChecksumKey) (s : Score) {S : String} {v : Int}
    (hnum : intNumeral? S.toList = some v) (hfit : FitsInt32 v) (hne : v ≠ s.points.toInt)
    (hsize : (S ++ "~" ++ s.name ++ "~" ++ toString (k.ofScore s).toNat).utf8ByteSize ≤
      scoreLineMaxBytes) :
    Score.decodeLine k (S ++ "~" ++ s.name ++ "~" ++ toString (k.ofScore s).toNat) =
      .error (.checksumMismatch (k.ofScore s) (k.ofScore { s with points := Int32.ofInt v })) := by
  obtain ⟨hK, hsum, hlt⟩ := checksum_field (k.ofScore s)
  let s' : Score := { s with points := Int32.ofInt v }
  have hpoints : intNumeral? S.toList = some s'.points.toInt := by
    rw [hnum, Int32.toInt_ofInt_of_fits hfit]
  have hfields : JoinsFields (S ++ "~" ++ s'.name ++ "~" ++ toString (k.ofScore s).toNat)
      [S, s'.name, toString (k.ofScore s).toNat] :=
    joinsFields_three (delimiter_not_mem_of_intNumeral hnum)
      (delimiter_not_mem_of_fieldFault s.valid) hK
  -- the checks pass up to the checksum, which was made for the old points
  have hdiff : k.ofScore s ≠ k.ofScore s' := by
    refine ChecksumKey.ofScore_ne_of_points rfl fun heq => hne ?_
    rw [heq, Int32.toInt_ofInt_of_fits hfit]
  rw [Score.decodeLine_of_score k hsize hfields hpoints hsum hlt, UInt64.ofNat_toNat,
    verifyChecksum, if_neg hdiff]

/-- A score line with one byte of its name changed: a mismatch with the checksum of the score
it now names. -/
theorem Score.decodeLine_other_name (k : ChecksumKey) (s : Score) {name : String}
    (hvalid : fieldFault .name nameMaxBytes name = none)
    (hapart : OneByteApart (Text.utf8 s.name) (Text.utf8 name)) :
    Score.decodeLine k (toString s.points.toInt ++ "~" ++ name ++ "~" ++
        toString (k.ofScore s).toNat) =
      .error (.checksumMismatch (k.ofScore s) (k.ofScore ⟨name, s.points, hvalid⟩)) := by
  obtain ⟨hK, hsum, hlt⟩ := checksum_field (k.ofScore s)
  let s' : Score := ⟨name, s.points, hvalid⟩
  have hfields : JoinsFields
      (toString s.points.toInt ++ "~" ++ s'.name ++ "~" ++ toString (k.ofScore s).toNat)
      [toString s.points.toInt, s'.name, toString (k.ofScore s).toNat] :=
    joinsFields_three (delimiter_not_mem_toString_int _) (delimiter_not_mem_of_fieldFault hvalid) hK
  -- the line has the length of the one written, which fits
  have hsize : (toString s.points.toInt ++ "~" ++ name ++ "~" ++
      toString (k.ofScore s).toNat).utf8ByteSize ≤ scoreLineMaxBytes := by
    have hwritten := Score.encodeLine_size_le k s
    have hname := utf8ByteSize_eq_of_oneByteApart hapart
    unfold Score.encodeLine at hwritten
    simp only [String.utf8ByteSize_append] at hwritten ⊢
    omega
  have hdiff : k.ofScore s ≠ k.ofScore s' := ChecksumKey.ofScore_ne_of_name rfl hapart
  rw [Score.decodeLine_of_score k hsize hfields (intNumeral?_toString _) hsum hlt,
    UInt64.ofNat_toNat, verifyChecksum, if_neg hdiff]

/-- A pack line with one byte of its text changed: a mismatch with the checksum of the line it
now holds. -/
theorem Note.decodeLine_other_text (k : ChecksumKey) (n : Note) {text : String}
    (hvalid : noteFault text = none) (hapart : OneByteApart (Text.utf8 n.text) (Text.utf8 text)) :
    Note.decodeLine k (toString (k.ofNote n).toNat ++ "~" ++ text) =
      .error (.checksumMismatch (k.ofNote n) (k.ofNote ⟨text, hvalid⟩)) := by
  obtain ⟨hK, hsum, hlt⟩ := checksum_field (k.ofNote n)
  let n' : Note := ⟨text, hvalid⟩
  have hfields : JoinsFields (toString (k.ofNote n).toNat ++ "~" ++ n'.text)
      [toString (k.ofNote n).toNat, n'.text] :=
    joinsFields_two hK (delimiter_not_mem_of_fieldFault (fieldFault_of_noteFault hvalid))
  have hsize : (toString (k.ofNote n).toNat ++ "~" ++ text).utf8ByteSize ≤ noteLineMaxBytes := by
    have hwritten := Note.encodeLine_size_le k n
    have htext := utf8ByteSize_eq_of_oneByteApart hapart
    unfold Note.encodeLine at hwritten
    simp only [String.utf8ByteSize_append] at hwritten ⊢
    omega
  have hdiff : k.ofNote n ≠ k.ofNote n' := ChecksumKey.ofNote_ne_of_text hapart
  rw [Note.decodeLine_of_note k hsize hfields hsum hlt, UInt64.ofNat_toNat, verifyChecksum,
    if_neg hdiff]

/-- **Under every key, a written line whose record was changed never reads back.** Other points
(any numeral of another 32-bit integer, the stored checksum kept) give a checksum mismatch
whenever the line still fits its 128 bytes, and a line too long otherwise; one byte changed in a
name or a pack text, the field still valid, always gives a checksum mismatch. -/
theorem tampered_lines_fail_checksum (k : ChecksumKey) :
    (∀ (s : Score) (S : String) (v : Int), intNumeral? S.toList = some v → FitsInt32 v →
      v ≠ s.points.toInt →
      (∀ r, Score.decodeLine k (S ++ "~" ++ s.name ++ "~" ++ toString (k.ofScore s).toNat) ≠
        .ok r) ∧
      ((S ++ "~" ++ s.name ++ "~" ++ toString (k.ofScore s).toNat).utf8ByteSize ≤
          scoreLineMaxBytes →
        Score.decodeLine k (S ++ "~" ++ s.name ++ "~" ++ toString (k.ofScore s).toNat) =
          .error (.checksumMismatch (k.ofScore s)
            (k.ofScore { s with points := Int32.ofInt v })))) ∧
    (∀ (s : Score) (name : String) (hvalid : fieldFault .name nameMaxBytes name = none),
      OneByteApart (Text.utf8 s.name) (Text.utf8 name) →
      Score.decodeLine k (toString s.points.toInt ++ "~" ++ name ++ "~" ++
          toString (k.ofScore s).toNat) =
        .error (.checksumMismatch (k.ofScore s) (k.ofScore ⟨name, s.points, hvalid⟩))) ∧
    (∀ (n : Note) (text : String) (hvalid : noteFault text = none),
      OneByteApart (Text.utf8 n.text) (Text.utf8 text) →
      Note.decodeLine k (toString (k.ofNote n).toNat ++ "~" ++ text) =
        .error (.checksumMismatch (k.ofNote n) (k.ofNote ⟨text, hvalid⟩))) := by
  refine ⟨fun s S v hnum hfit hne =>
      ⟨fun r hok => ?_, Score.decodeLine_other_points k s hnum hfit hne⟩,
    fun s _ hvalid hapart => Score.decodeLine_other_name k s hvalid hapart,
    fun n _ hvalid hapart => Note.decodeLine_other_text k n hvalid hapart⟩
  -- a line that no longer fits is refused for its length; one that fits, for its checksum
  by_cases hsize : (S ++ "~" ++ s.name ++ "~" ++ toString (k.ofScore s).toNat).utf8ByteSize ≤
      scoreLineMaxBytes
  · rw [Score.decodeLine_other_points k s hnum hfit hne hsize] at hok
    cases hok
  · rw [Score.decodeLine_of_long k (Nat.lt_of_not_le hsize)] at hok
    cases hok

end ScoreKeeper
