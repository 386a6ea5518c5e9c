import Mathlib
import ScoreKeeper.Proofs.Codec.Tamper

/-!
# ScoreKeeper — the checksum as arithmetic modulo `2 ^ 64`

A score's checksum is the secret times the sign-extended points, with the name's bytes then
folded in as `acc * 33 + b`, all wrapping at `2 ^ 64`. This module reads both steps as arithmetic
modulo `2 ^ 64`.

* The fold is a polynomial in 33: from `acc`, the bytes `b₀ … bₙ₋₁` give
  `acc * 33 ^ n + ∑ bᵢ * 33 ^ (n - 1 - i)`. For a fixed byte string it is therefore a bijection of
  its start, and one byte changed at one place changes its value.
* The score step multiplies by the secret. Two 32-bit points differ by less than `2 ^ 32`, so a
  secret keeps every two points apart exactly when `2 ^ 33` does not divide it. Odd secrets, the
  only ones a key takes, do; so do the even secrets `≡ 2 mod 4` that a key refuses. A secret
  that `2 ^ 33` divides sends the points `0` and `-2 ^ 31` to one word.

## The architecture

* **`foldPoly`**, **`foldBytes_toNat_modEq`** — the polynomial, and the fold agrees with it
  modulo `2 ^ 64`, by induction on the bytes.
* **`oneByteApart_of_getElem?`** — one length and one differing index give the split shape that
  `foldBytes_ne_of_oneByteApart` takes.
* **`foldBytes_closed_form`** — the fold's polynomial, its bijectivity and its one-byte law.
* **`widenPoints_toNat_modEq`**, **`mul_widenPoints_eq_iff`** — two points meet under a secret
  exactly when `2 ^ 64` divides the secret times their difference.
* **`eq_zero_of_two_pow_dvd_mul`** — the count of factors of two that rules such a difference out.
* **`ChecksumKey.make?_isOk_iff`** — a key is made exactly from an odd secret.
* **`scoreChecksum_injective_iff`** — which secrets keep scores apart.
-/

namespace ScoreKeeper

/-! ## Words as residues modulo `2 ^ 64` -/

theorem UInt64.eq_iff_modEq {a b : UInt64} : a = b ↔ (a.toNat : Int) ≡ b.toNat [ZMOD 2 ^ 64] := by
  rw [show ((2 : Int) ^ 64) = ((2 ^ 64 : Nat) : Int) by norm_num, Int.natCast_modEq_iff, Nat.ModEq,
    Nat.mod_eq_of_lt (UInt64.toNat_lt a), Nat.mod_eq_of_lt (UInt64.toNat_lt b), UInt64.toNat_inj]

theorem UInt64.toNat_mul_modEq (a b : UInt64) :
    ((a * b).toNat : Int) ≡ a.toNat * b.toNat [ZMOD 2 ^ 64] := by
  rw [UInt64.toNat_mul]
  push_cast
  exact Int.mod_modEq _ _

/-! ## The fold as a polynomial in 33 -/

/-- The fold's value without wrapping: the start times `33 ^ n`, and each byte times the power of
33 that the steps after it contribute. -/
def foldPoly (acc : Nat) (bs : List UInt8) : Nat :=
  acc * 33 ^ bs.length + ∑ i : Fin bs.length, bs[i].toNat * 33 ^ (bs.length - 1 - i)

theorem foldPoly_cons (acc : Nat) (b : UInt8) (bs : List UInt8) :
    foldPoly acc (b :: bs) = foldPoly (acc * 33 + b.toNat) bs := by
  unfold foldPoly
  show _ + ∑ i : Fin (bs.length + 1), (b :: bs)[i].toNat * 33 ^ (bs.length + 1 - 1 - i) = _
  -- the first byte is the top term; the others keep their powers
  rw [Fin.sum_univ_succ]
  have hrest : ∑ i : Fin bs.length, (b :: bs)[i.succ].toNat * 33 ^ (bs.length + 1 - 1 - i.succ)
      = ∑ i : Fin bs.length, bs[i].toNat * 33 ^ (bs.length - 1 - i) := by
    refine Finset.sum_congr rfl fun i _ => ?_
    simp only [Fin.getElem_fin, Fin.val_succ, List.getElem_cons_succ]
    congr 2
    omega
  rw [hrest]
  simp only [Fin.getElem_fin, Fin.val_zero, List.getElem_cons_zero, Nat.add_sub_cancel,
    Nat.sub_zero, List.length_cons]
  ring

theorem foldPoly_modEq {m a a' : Nat} (bs : List UInt8) (h : a ≡ a' [MOD m]) :
    foldPoly a bs ≡ foldPoly a' bs [MOD m] :=
  (h.mul_right _).add_right _

/-- **The fold is its polynomial modulo `2 ^ 64`.** Induction on the bytes, with the start
generalized: one step wraps `acc * 33 + b`, and the polynomial of the rest only sees its
residue. -/
theorem foldBytes_toNat_modEq (acc : UInt64) (bs : List UInt8) :
    (foldBytes acc bs).toNat ≡ foldPoly acc.toNat bs [MOD 2 ^ 64] := by
  induction bs generalizing acc with
  | nil => simp [foldBytes, foldPoly, Nat.ModEq.refl]
  | cons b bs ih =>
    rw [foldBytes_cons, foldPoly_cons]
    refine (ih _).trans (foldPoly_modEq bs ?_)
    rw [UInt64.toNat_add, UInt64.toNat_mul, UInt8.toNat_toUInt64]
    exact (Nat.mod_modEq _ _).trans ((Nat.mod_modEq _ _).add_right _)

/-- Two byte strings of one length that differ at one index and agree everywhere else are one
byte apart: they share the bytes before and after that index. -/
theorem oneByteApart_of_getElem? {bs cs : List UInt8} {i : Nat} (hlen : cs.length = bs.length)
    (hi : bs[i]? ≠ cs[i]?) (hrest : ∀ j, j ≠ i → bs[j]? = cs[j]?) : OneByteApart bs cs := by
  have hib : i < bs.length := by
    by_contra hge
    exact hi (by rw [List.getElem?_eq_none (by omega), List.getElem?_eq_none (by omega)])
  have hic : i < cs.length := hlen ▸ hib
  have hpre : bs.take i = cs.take i := List.ext_getElem? fun j => by
    simp only [List.getElem?_take]
    split
    · exact hrest j (by omega)
    · rfl
  have hpost : bs.drop (i + 1) = cs.drop (i + 1) := List.ext_getElem? fun j => by
    simp only [List.getElem?_drop]
    exact hrest _ (by omega)
  refine ⟨bs.take i, bs.drop (i + 1), bs[i], cs[i], ?_, ?_, ?_⟩
  · intro hxy
    exact hi (by rw [List.getElem?_eq_getElem hib, List.getElem?_eq_getElem hic, hxy])
  · rw [List.getElem_cons_drop, List.take_append_drop]
  · rw [hpre, hpost, List.getElem_cons_drop, List.take_append_drop]

/-- **The fold in closed form.** Its value is `acc * 33 ^ n + ∑ bᵢ * 33 ^ (n - 1 - i)` modulo
`2 ^ 64`; for fixed bytes it is a bijection of its start; and from one start, two byte strings of
one length that differ at exactly one index fold to different words. -/
theorem foldBytes_closed_form (acc : UInt64) (bs : List UInt8) :
    (foldBytes acc bs).toNat =
        (acc.toNat * 33 ^ bs.length + ∑ i : Fin bs.length, bs[i].toNat * 33 ^ (bs.length - 1 - i))
          % 2 ^ 64 ∧
      Function.Bijective (fun a => foldBytes a bs) ∧
      ∀ cs : List UInt8, cs.length = bs.length → ∀ i : Nat, bs[i]? ≠ cs[i]? →
        (∀ j, j ≠ i → bs[j]? = cs[j]?) → foldBytes acc bs ≠ foldBytes acc cs := by
  refine ⟨?_, ?_, ?_⟩
  · rw [← Nat.mod_eq_of_lt (UInt64.toNat_lt (foldBytes acc bs))]
    exact foldBytes_toNat_modEq acc bs
  · -- an injective map of the finite set of words onto itself
    exact Finite.injective_iff_bijective.1 fun a b h => foldBytes_injective h
  · intro cs hlen i hi hrest
    exact foldBytes_ne_of_oneByteApart acc (oneByteApart_of_getElem? hlen hi hrest)

/-- `ab` and `ac` differ only in their second byte, so they fold apart. -/
theorem foldBytes_closed_form_ab_ac :
    ([97, 99] : List UInt8).length = ([97, 98] : List UInt8).length ∧
      ([97, 98] : List UInt8)[1]? ≠ ([97, 99] : List UInt8)[1]? ∧
      (∀ j, j ≠ 1 → ([97, 98] : List UInt8)[j]? = ([97, 99] : List UInt8)[j]?) ∧
      foldBytes 1 [97, 98] ≠ foldBytes 1 [97, 99] :=
  have hrest : ∀ j, j ≠ 1 → ([97, 98] : List UInt8)[j]? = ([97, 99] : List UInt8)[j]? := by
    intro j hj
    rcases j with _ | _ | j
    · rfl
    · exact absurd rfl hj
    · rfl
  ⟨rfl, by decide, hrest, (foldBytes_closed_form 1 [97, 98]).2.2 [97, 99] rfl 1 (by decide) hrest⟩

/-! ## Secrets that keep scores apart -/

/-- Sign extension keeps the points' residue modulo `2 ^ 64`. -/
theorem widenPoints_toNat_modEq (p : Int32) :
    ((widenPoints p).toNat : Int) ≡ p.toInt [ZMOD 2 ^ 64] := by
  have h1 : (widenPoints p).toNat = p.toInt64.toBitVec.toNat := rfl
  have h2 : p.toInt = p.toInt64.toBitVec.toInt := by
    rw [← Int32.toInt_toInt64]
    rfl
  rw [h1, h2, BitVec.toInt_eq_toNat_bmod, Int.ModEq,
    show ((2 : Int) ^ 64) = ((2 ^ 64 : Nat) : Int) by norm_num, Int.bmod_emod]

theorem mul_widenPoints_eq_iff (s : UInt64) (p q : Int32) :
    s * widenPoints p = s * widenPoints q ↔ (2 ^ 64 : Int) ∣ s.toNat * (p.toInt - q.toInt) := by
  have hp := (UInt64.toNat_mul_modEq s (widenPoints p)).trans
    ((widenPoints_toNat_modEq p).mul_left (s.toNat : Int))
  have hq := (UInt64.toNat_mul_modEq s (widenPoints q)).trans
    ((widenPoints_toNat_modEq q).mul_left (s.toNat : Int))
  have hsame : s * widenPoints p = s * widenPoints q ↔
      (s.toNat : Int) * p.toInt ≡ s.toNat * q.toInt [ZMOD 2 ^ 64] := by
    rw [UInt64.eq_iff_modEq]
    exact ⟨fun h => hp.symm.trans (h.trans hq), fun h => hp.trans (h.trans hq.symm)⟩
  have hneg : (s.toNat : Int) * q.toInt - s.toNat * p.toInt = -(s.toNat * (p.toInt - q.toInt)) := by
    ring
  rw [hsame, Int.modEq_iff_dvd, hneg, Int.dvd_neg]

/-- A multiple of `2 ^ 64` that is a number with at most 32 factors of two times one below
`2 ^ 32` in absolute value has that second factor zero. -/
theorem eq_zero_of_two_pow_dvd_mul {s : Nat} {d : Int} (hs : ¬ 2 ^ 33 ∣ s) (hd : |d| < 2 ^ 32)
    (h : (2 ^ 64 : Int) ∣ s * d) : d = 0 := by
  have hs0 : s ≠ 0 := by
    rintro rfl
    exact hs (dvd_zero _)
  obtain ⟨k, m, hm, rfl⟩ := Nat.exists_eq_two_pow_mul_odd hs0
  -- `s = 2 ^ k * m` with `m` odd, and `k ≤ 32` since `2 ^ 33` does not divide `s`
  have hk : k ≤ 32 := by
    by_contra hk
    exact hs (Dvd.dvd.mul_right (pow_dvd_pow 2 (by omega)) m)
  have hsplit : (2 : Int) ^ 64 = 2 ^ k * 2 ^ (64 - k) := by
    rw [← pow_add]
    congr 1
    omega
  have hmd : (2 : Int) ^ (64 - k) ∣ m * d := by
    rw [hsplit] at h
    push_cast at h
    rw [mul_assoc] at h
    exact (mul_dvd_mul_iff_left (by positivity)).1 h
  -- the odd part is prime to every power of two, so `2 ^ (64 - k)`, at least `2 ^ 32`, divides `d`
  have hcop : IsCoprime ((2 : Int) ^ (64 - k)) m := by
    have : Nat.Coprime (2 ^ (64 - k)) m := Nat.Coprime.pow_left _ (Nat.coprime_two_left.2 hm)
    exact_mod_cast Nat.isCoprime_iff_coprime.2 this
  have h32 : (2 : Int) ^ 32 ∣ d := (pow_dvd_pow 2 (by omega)).trans (hcop.dvd_of_dvd_mul_left hmd)
  exact Int.eq_zero_of_abs_lt_dvd h32 hd

theorem mul_widenPoints_injective_iff (s : UInt64) :
    Function.Injective (fun p : Int32 => s * widenPoints p) ↔ ¬ 2 ^ 33 ∣ s.toNat := by
  constructor
  · -- a secret that `2 ^ 33` divides sends points `2 ^ 31` apart to one word
    rintro hinj ⟨t, ht⟩
    have hcollide : s * widenPoints 0 = s * widenPoints Int32.minValue := by
      rw [mul_widenPoints_eq_iff, ht, Int32.toInt_minValue]
      exact ⟨t, by push_cast; ring⟩
    exact absurd (hinj hcollide) (by decide)
  · intro hs p q h
    rw [mul_widenPoints_eq_iff] at h
    have hd : |p.toInt - q.toInt| < 2 ^ 32 := by
      have := p.toInt_lt
      have := p.le_toInt
      have := q.toInt_lt
      have := q.le_toInt
      rw [abs_lt]
      constructor <;> omega
    have hzero := eq_zero_of_two_pow_dvd_mul hs hd h
    exact Int32.toInt_inj.1 (by omega)

/-- The checksum of a score under any 64-bit secret, odd or not: the secret times the
sign-extended points, then the name's bytes. `ChecksumKey.ofScore` is this under a key's
secret. -/
def scoreChecksum (secret : UInt64) (name : String) (points : Int32) : UInt64 :=
  foldBytes (secret * widenPoints points) (Text.utf8 name)

theorem ChecksumKey.ofScore_eq_scoreChecksum (k : ChecksumKey) (s : Score) :
    k.ofScore s = scoreChecksum k.secret s.name s.points :=
  rfl

theorem not_two_pow_dvd_of_mod_four {s : UInt64} (h : s.toNat % 4 ≠ 0) : ¬ 2 ^ 33 ∣ s.toNat := by
  intro hdvd
  have h4 : 4 ∣ s.toNat := (by norm_num : (4 : Nat) ∣ 2 ^ 33).trans hdvd
  omega

theorem UInt64.mod_two_eq_one_iff (s : UInt64) : s % 2 = 1 ↔ s.toNat % 2 = 1 := by
  rw [← UInt64.toNat_inj, UInt64.toNat_mod]
  rfl

/-- A key is made exactly from an odd secret. -/
theorem ChecksumKey.make?_isOk_iff (s : UInt64) :
    (∃ k, ChecksumKey.make? s = .ok k) ↔ s.toNat % 2 = 1 := by
  rw [← UInt64.mod_two_eq_one_iff]
  unfold ChecksumKey.make?
  split
  · rename_i hodd
    exact ⟨fun _ => hodd, fun _ => ⟨_, rfl⟩⟩
  · rename_i heven
    constructor
    · rintro ⟨_, h⟩
      cases h
    · intro hodd
      exact absurd hodd heven

/-- **Which secrets keep scores apart.** Under a secret, the checksums of one name with different
points all differ exactly when `2 ^ 33` does not divide the secret. So they do for every secret a
key accepts, and for the even secrets `≡ 2 mod 4` that a key refuses. -/
theorem scoreChecksum_injective_iff (name : String) :
    (∀ s : UInt64, Function.Injective (scoreChecksum s name) ↔ ¬ 2 ^ 33 ∣ s.toNat) ∧
      (∀ (s : UInt64) (k : ChecksumKey), ChecksumKey.make? s = .ok k →
        Function.Injective (scoreChecksum s name)) ∧
      (∀ s : UInt64, s.toNat % 4 = 2 →
        (¬ ∃ k, ChecksumKey.make? s = .ok k) ∧ Function.Injective (scoreChecksum s name)) := by
  -- the fold keeps its start apart, so only the score step decides
  have hiff : ∀ s : UInt64, Function.Injective (scoreChecksum s name) ↔ ¬ 2 ^ 33 ∣ s.toNat := by
    intro s
    rw [← mul_widenPoints_injective_iff]
    exact Function.Injective.of_comp_iff (fun a b h => foldBytes_injective h) _
  refine ⟨hiff, fun s k hk => (hiff s).2 ?_, fun s hs => ⟨?_, (hiff s).2 ?_⟩⟩
  · have hodd := (ChecksumKey.make?_isOk_iff s).1 ⟨k, hk⟩
    exact not_two_pow_dvd_of_mod_four (by omega)
  · rw [ChecksumKey.make?_isOk_iff]
    omega
  · exact not_two_pow_dvd_of_mod_four (by omega)

/-- An odd secret and the even secret 2 both keep the scores of `bob` apart. -/
theorem scoreChecksum_injective_three_and_two :
    (ChecksumKey.make? 3 = .ok ⟨3, by decide⟩ ∧ Function.Injective (scoreChecksum 3 "bob")) ∧
      ((2 : UInt64).toNat % 4 = 2 ∧ (¬ ∃ k, ChecksumKey.make? 2 = .ok k) ∧
        Function.Injective (scoreChecksum 2 "bob")) :=
  ⟨⟨rfl, (scoreChecksum_injective_iff "bob").2.1 3 ⟨3, by decide⟩ rfl⟩,
    ⟨by decide, (scoreChecksum_injective_iff "bob").2.2 2 (by decide)⟩⟩

end ScoreKeeper
