import Mathlib
import ScoreKeeper.Text.Integer

/-!
# ScoreKeeper — decimal numerals read back

Numbers are written in decimal by `toString` and read by `Text.readInt`. This module proves
that the two agree: the numeral of every integer within the range asked for reads back as that
integer, and a numeral takes one byte per digit.

## The architecture

* **`scanDigits_eq_ok`** — scanning digits whose value stays within the limit gives their
  value. The value only grows as digits are read, so a final value within the limit means no
  intermediate one exceeded it.
* **`readInt_toString`** — the numeral of an integer in `[low, high]` reads back as itself: a
  natural numeral is all digits, and a negative one is `-` followed by the digits of the
  magnitude, which `readInt` reads as a sign when `low < 0`.
* **`utf8ByteSize_toString_nat`**, **`utf8ByteSize_toString_int_le`** — numerals are ASCII, so
  their byte length is their number of characters, bounded through the magnitude.
-/

namespace ScoreKeeper.Text

/-- A digit character's value is its distance from `'0'`. -/
theorem digitValue?_of_isDigit {c : Char} (h : c.isDigit = true) :
    digitValue? c = some (c.toNat - '0'.toNat) := by
  have hle : '0' ≤ c ∧ c ≤ '9' := by
    simp only [Char.isDigit, Bool.and_eq_true, decide_eq_true_eq] at h
    exact ⟨h.1, h.2⟩
  simp [digitValue?, hle.1, hle.2]

/-- Reading more digits never lowers the value read so far. -/
theorem le_ofDigitChars (cs : List Char) (acc : Nat) : acc ≤ Nat.ofDigitChars 10 cs acc := by
  rw [Nat.ofDigitChars_eq_ofDigitChars_zero]
  have hpow : 1 ≤ 10 ^ cs.length := Nat.one_le_pow _ _ (by decide)
  calc acc = 1 * acc := (Nat.one_mul acc).symm
    _ ≤ 10 ^ cs.length * acc := Nat.mul_le_mul_right acc hpow
    _ ≤ 10 ^ cs.length * acc + Nat.ofDigitChars 10 cs 0 := Nat.le_add_right _ _

/-- **Scanning digits whose value stays within the limit gives their value.** Induction on the
digits; the value after each digit is at most the final one. -/
theorem scanDigits_eq_ok {limit : Nat} {excess : IntError} {acc : Nat} {cs : List Char}
    (hdigits : ∀ c ∈ cs, c.isDigit = true) (hle : Nat.ofDigitChars 10 cs acc ≤ limit) :
    scanDigits limit excess acc cs = .ok (Nat.ofDigitChars 10 cs acc) := by
  induction cs generalizing acc with
  | nil => rfl
  | cons c cs ih =>
    have hc : c.isDigit = true := hdigits c List.mem_cons_self
    rw [Nat.ofDigitChars_cons] at hle ⊢
    -- the value after `c` is within the limit, since the final value is
    have hnext : acc * 10 + (c.toNat - '0'.toNat) = 10 * acc + (c.toNat - '0'.toNat) := by
      rw [Nat.mul_comm]
    have hwithin : ¬ limit < acc * 10 + (c.toNat - '0'.toNat) := by
      have := le_ofDigitChars cs (10 * acc + (c.toNat - '0'.toNat))
      omega
    simp only [scanDigits, digitValue?_of_isDigit hc, hwithin, if_false]
    rw [hnext]
    exact ih (fun d hd => hdigits d (List.mem_cons_of_mem c hd)) hle

/-- A list of digits that does not start with a sign is read as an unsigned numeral. -/
theorem readInt_of_digits {low high : Int} {cs : List Char}
    (hdigits : ∀ c ∈ cs, c.isDigit = true) (hne : cs ≠ []) :
    readInt low high cs = (scanDigits high.toNat .tooLarge 0 cs).map Int.ofNat := by
  obtain ⟨c, rest, rfl⟩ := List.exists_cons_of_ne_nil hne
  have hc : c.isDigit = true := hdigits c List.mem_cons_self
  -- a digit is neither sign
  have hplus : c ≠ '+' := fun h => by rw [h] at hc; exact absurd hc (by decide)
  have hminus : c ≠ '-' := fun h => by rw [h] at hc; exact absurd hc (by decide)
  unfold readInt
  split <;> simp_all

/-- With a negative lower bound, a `-` followed by digits is read as a negative numeral. -/
theorem readInt_minus {low high : Int} {cs : List Char} (hlow : low < 0) (hne : cs ≠ []) :
    readInt low high ('-' :: cs) =
      (scanDigits low.natAbs .tooSmall 0 cs).map fun n => -Int.ofNat n := by
  obtain ⟨c, rest, rfl⟩ := List.exists_cons_of_ne_nil hne
  simp [readInt, hlow]

/-- The digits of a natural number are digit characters, at least one. -/
theorem toList_repr_isDigit (n : Nat) : ∀ c ∈ n.repr.toList, c.isDigit = true := by
  intro c hc
  rw [Nat.toList_repr] at hc
  exact Nat.isDigit_of_mem_toDigits (by decide) (by decide) hc

theorem toList_repr_ne_nil (n : Nat) : n.repr.toList ≠ [] := by
  rw [Nat.toList_repr]
  exact Nat.toDigits_ne_nil

/-- **The numeral of every integer in `[low, high]` reads back as that integer.** -/
theorem readInt_toString {low high i : Int} (hlow : low ≤ i) (hhigh : i ≤ high) :
    readInt low high (toString i).toList = .ok i := by
  rw [Int.toString_eq_repr, Int.repr_eq_if]
  split
  · -- a natural numeral: its digits, read without a sign
    rename_i hnonneg
    have hvalue : Nat.ofDigitChars 10 i.toNat.repr.toList 0 = i.toNat := by
      rw [Nat.toList_repr, Nat.ofDigitChars_ten_toDigits]
    rw [readInt_of_digits (toList_repr_isDigit _) (toList_repr_ne_nil _),
      scanDigits_eq_ok (toList_repr_isDigit _) (by rw [hvalue]; omega), hvalue]
    simp only [Except.map, Int.ofNat_eq_natCast, Int.toNat_of_nonneg hnonneg]
  · -- a negative numeral: `-`, then the digits of the magnitude, read as a sign and digits
    rename_i hneg
    have hvalue : Nat.ofDigitChars 10 (-i).toNat.repr.toList 0 = (-i).toNat := by
      rw [Nat.toList_repr, Nat.ofDigitChars_ten_toDigits]
    have hmag : (-i).toNat ≤ low.natAbs := by omega
    rw [String.toList_append, show "-".toList = ['-'] from rfl, List.singleton_append,
      readInt_minus (by omega) (toList_repr_ne_nil _),
      scanDigits_eq_ok (toList_repr_isDigit _) (by rw [hvalue]; exact hmag), hvalue]
    simp only [Except.map, Int.ofNat_eq_natCast]
    congr 1
    omega

/-! ## Bytes of a numeral -/

/-- A text of one-byte characters has one byte per character. -/
theorem utf8ByteSize_ofList_of_ascii {cs : List Char} (h : ∀ c ∈ cs, c.utf8Size = 1) :
    (String.ofList cs).utf8ByteSize = cs.length := by
  induction cs with
  | nil => rfl
  | cons c cs ih =>
    rw [String.ofList_cons, String.utf8ByteSize_append, String.utf8ByteSize_singleton,
      h c List.mem_cons_self, ih fun d hd => h d (List.mem_cons_of_mem c hd), List.length_cons,
      Nat.add_comm]

/-- A digit is one byte. -/
theorem utf8Size_of_isDigit {c : Char} (h : c.isDigit = true) : c.utf8Size = 1 := by
  rw [Char.utf8Size_eq_one_iff]
  simp only [Char.isDigit, Bool.and_eq_true, decide_eq_true_eq] at h
  have h9 : c ≤ '9' := h.2
  rw [Char.le_def] at h9
  exact UInt32.le_trans h9 (by decide)

/-- A natural numeral has one byte per digit. -/
theorem utf8ByteSize_toString_nat (n : Nat) :
    (toString n).utf8ByteSize = (Nat.toDigits 10 n).length := by
  rw [Nat.toString_eq_ofList_toDigits]
  exact utf8ByteSize_ofList_of_ascii fun c hc =>
    utf8Size_of_isDigit (Nat.isDigit_of_mem_toDigits (by decide) (by decide) hc)

/-- A natural number below `10 ^ k` has a numeral of at most `k` bytes. -/
theorem utf8ByteSize_toString_nat_le {n k : Nat} (hk : 0 < k) (h : n < Nat.pow 10 k) :
    (toString n).utf8ByteSize ≤ k := by
  rw [utf8ByteSize_toString_nat]
  exact (Nat.length_toDigits_le_iff (by decide) hk).2 h

/-- An integer of magnitude below `10 ^ k` has a numeral of at most `k + 1` bytes: the digits
and perhaps a sign. -/
theorem utf8ByteSize_toString_int_le {i : Int} {k : Nat} (hk : 0 < k)
    (h : i.natAbs < Nat.pow 10 k) :
    (toString i).utf8ByteSize ≤ k + 1 := by
  rw [Int.toString_eq_repr, Int.repr_eq_if]
  split
  · rename_i hnonneg
    have hlen : (toString i.toNat).utf8ByteSize ≤ k := utf8ByteSize_toString_nat_le hk (by omega)
    rw [Nat.toString_eq_repr] at hlen
    omega
  · have hlen : (toString (-i).toNat).utf8ByteSize ≤ k :=
      utf8ByteSize_toString_nat_le hk (by omega)
    rw [Nat.toString_eq_repr] at hlen
    rw [String.utf8ByteSize_append]
    have hsign : "-".utf8ByteSize = 1 := rfl
    omega

end ScoreKeeper.Text
