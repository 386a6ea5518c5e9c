import Mathlib
import ScoreKeeper.Text.Utf8

/-!
# ScoreKeeper — a text's own bytes decode to the text

The store writes a document as the UTF-8 bytes of its text and reads bytes back leniently, so
what it reads back is the text it wrote exactly when lenient decoding inverts the encoding on
well-formed input. It does: each character's one to four bytes pass the decoder's checks for
their lead byte (never an overlong form, a surrogate or a code point above U+10FFFF), and the
payload bits put back together give the code point.

## The architecture

* **`leadByte_one`** … **`leadByte_four`** — the tests both decoders make on a lead byte, settled
  once for each class of lead byte.
* **`decodeLossy_ascii`**, **`decodeLossy_two`**, **`decodeLossy_three`**, **`decodeLossy_four`**
  — the decoder's step on a well-formed sequence of each length.
* **`utf8EncodeChar_one`** … **`utf8EncodeChar_four`**, with the range facts of the second byte
  — a character's bytes, by how many it takes.
* **`decodeLossy_utf8EncodeChar_append`** — one character's bytes decode to the character,
  by the number of bytes it takes.
* **`textOfBytes_utf8`** — the whole text, by induction on its characters.
* **`utf8Error?_utf8`** — the strict check finds no error in a text's own bytes, by the same
  steps.
-/

namespace ScoreKeeper.Text

/-! ## The decoder's steps on well-formed sequences -/

section Lead

variable {b : UInt8}

/-- The tests both decoders make on a lead byte, passed by each class of lead byte: every range
before its own fails, its own holds. -/
theorem leadByte_one (hb : b.toNat < 0x80) : b < 0x80 := by
  simp [UInt8.lt_iff_toNat_lt]; omega

theorem leadByte_two (hb : 0xC2 ≤ b.toNat ∧ b.toNat ≤ 0xDF) :
    ¬ b < 0x80 ∧ (0xC2 ≤ b ∧ b ≤ 0xDF) := by
  simp [UInt8.lt_iff_toNat_lt, UInt8.le_iff_toNat_le]; omega

theorem leadByte_three (hb : 0xE0 ≤ b.toNat ∧ b.toNat ≤ 0xEF) :
    ¬ b < 0x80 ∧ ¬ (0xC2 ≤ b ∧ b ≤ 0xDF) ∧ (0xE0 ≤ b ∧ b ≤ 0xEF) := by
  simp [UInt8.lt_iff_toNat_lt, UInt8.le_iff_toNat_le]; omega

theorem leadByte_four (hb : 0xF0 ≤ b.toNat ∧ b.toNat ≤ 0xF4) :
    ¬ b < 0x80 ∧ ¬ (0xC2 ≤ b ∧ b ≤ 0xDF) ∧ ¬ (0xE0 ≤ b ∧ b ≤ 0xEF) ∧ (0xF0 ≤ b ∧ b ≤ 0xF4) := by
  simp [UInt8.lt_iff_toNat_lt, UInt8.le_iff_toNat_le]; omega

end Lead

theorem isContinuation_iff {b : UInt8} :
    isContinuation b = true ↔ 0x80 ≤ b.toNat ∧ b.toNat ≤ 0xBF := by
  simp [isContinuation, UInt8.le_iff_toNat_le]

theorem decodeLossy_ascii {b : UInt8} (hb : b.toNat < 0x80) (rest : List UInt8) :
    decodeLossy (b :: rest) = charOf b.toNat :: decodeLossy rest := by
  rw [decodeLossy.eq_def]
  simp [leadByte_one hb]

theorem decodeLossy_two {b c : UInt8} (hb : 0xC2 ≤ b.toNat ∧ b.toNat ≤ 0xDF)
    (hc : isContinuation c = true) (rest : List UInt8) :
    decodeLossy (b :: c :: rest) =
      charOf ((b.toNat % 0x20) * 0x40 + c.toNat % 0x40) :: decodeLossy rest := by
  obtain ⟨hb1, hb2⟩ := leadByte_two hb
  rw [decodeLossy.eq_def]
  simp [hb1, hb2, hc]

theorem decodeLossy_three {b c1 c2 : UInt8} (hb : 0xE0 ≤ b.toNat ∧ b.toNat ≤ 0xEF)
    (h1 : thirdsSecondOk b c1 = true) (h2 : isContinuation c2 = true) (rest : List UInt8) :
    decodeLossy (b :: c1 :: c2 :: rest) =
      charOf ((b.toNat % 0x10) * 0x1000 + (c1.toNat % 0x40) * 0x40 + c2.toNat % 0x40)
        :: decodeLossy rest := by
  obtain ⟨hb1, hb2, hb3⟩ := leadByte_three hb
  rw [decodeLossy.eq_def]
  simp [hb1, hb2, hb3, h1, h2]

theorem decodeLossy_four {b c1 c2 c3 : UInt8} (hb : 0xF0 ≤ b.toNat ∧ b.toNat ≤ 0xF4)
    (h1 : fourthsSecondOk b c1 = true) (h2 : isContinuation c2 = true)
    (h3 : isContinuation c3 = true) (rest : List UInt8) :
    decodeLossy (b :: c1 :: c2 :: c3 :: rest) =
      charOf ((b.toNat % 0x08) * 0x40000 + (c1.toNat % 0x40) * 0x1000
        + (c2.toNat % 0x40) * 0x40 + c3.toNat % 0x40) :: decodeLossy rest := by
  obtain ⟨hb1, hb2, hb3, hb4⟩ := leadByte_four hb
  rw [decodeLossy.eq_def]
  simp [hb1, hb2, hb3, hb4, h1, h2, h3]

/-! ## A character's bytes, by how many there are -/

/-- A character's code point lies below the surrogates, or above them and at most U+10FFFF. -/
theorem toNat_valid (c : Char) : c.toNat < 0xd800 ∨ (0xdfff < c.toNat ∧ c.toNat < 0x110000) := by
  simpa [UInt32.isValidChar, Nat.isValidChar] using c.valid

section Encode

variable {c : Char}

theorem utf8EncodeChar_one (h1 : c.toNat ≤ 0x7f) :
    String.utf8EncodeChar c = [UInt8.ofNat c.toNat] := by
  simp [String.utf8EncodeChar, h1]

/-- Two bytes: five bits, then six; the lead byte is at least 0xC2, so never overlong. -/
theorem utf8EncodeChar_two (h1 : ¬ c.toNat ≤ 0x7f) (h2 : c.toNat ≤ 0x7ff) :
    String.utf8EncodeChar c =
      [UInt8.ofNat (c.toNat / 64 % 0x20 + 0xc0), UInt8.ofNat (c.toNat % 0x40 + 0x80)] := by
  simp [String.utf8EncodeChar, h2, h1]

theorem utf8EncodeChar_three (h1 : ¬ c.toNat ≤ 0x7f) (h2 : ¬ c.toNat ≤ 0x7ff)
    (h3 : c.toNat ≤ 0xffff) :
    String.utf8EncodeChar c =
      [UInt8.ofNat (c.toNat / 4096 % 0x10 + 0xe0), UInt8.ofNat (c.toNat / 64 % 0x40 + 0x80),
        UInt8.ofNat (c.toNat % 0x40 + 0x80)] := by
  simp [String.utf8EncodeChar, h3, h2, h1]

theorem utf8EncodeChar_four (h1 : ¬ c.toNat ≤ 0x7f) (h2 : ¬ c.toNat ≤ 0x7ff)
    (h3 : ¬ c.toNat ≤ 0xffff) :
    String.utf8EncodeChar c =
      [UInt8.ofNat (c.toNat / 262144 % 0x08 + 0xf0), UInt8.ofNat (c.toNat / 4096 % 0x40 + 0x80),
        UInt8.ofNat (c.toNat / 64 % 0x40 + 0x80), UInt8.ofNat (c.toNat % 0x40 + 0x80)] := by
  simp [String.utf8EncodeChar, h3, h2, h1]

/-- The second of three bytes is in range for its lead byte, because the code point is at least
U+0800 and is not a surrogate. -/
theorem thirdsSecondOk_utf8EncodeChar (h2 : ¬ c.toNat ≤ 0x7ff) (h3 : c.toNat ≤ 0xffff) :
    thirdsSecondOk (UInt8.ofNat (c.toNat / 4096 % 0x10 + 0xe0))
      (UInt8.ofNat (c.toNat / 64 % 0x40 + 0x80)) = true := by
  have hvalid := toNat_valid c
  unfold thirdsSecondOk isContinuation
  simp only [← UInt8.toNat_inj, UInt8.le_iff_toNat_le, UInt8.toNat_ofNat', UInt8.toNat_ofNat]
  split_ifs <;> simp_all <;> omega

/-- The second of four bytes is in range for its lead byte, because the code point is at least
U+10000 and at most U+10FFFF. -/
theorem fourthsSecondOk_utf8EncodeChar (h3 : ¬ c.toNat ≤ 0xffff) :
    fourthsSecondOk (UInt8.ofNat (c.toNat / 262144 % 0x08 + 0xf0))
      (UInt8.ofNat (c.toNat / 4096 % 0x40 + 0x80)) = true := by
  have hvalid := toNat_valid c
  unfold fourthsSecondOk isContinuation
  simp only [← UInt8.toNat_inj, UInt8.le_iff_toNat_le, UInt8.toNat_ofNat', UInt8.toNat_ofNat]
  split_ifs <;> simp_all <;> omega

end Encode

/-! ## Decoding a character, then the whole text -/

/-- **A character's bytes decode to the character**, whatever follows them. -/
theorem decodeLossy_utf8EncodeChar_append (c : Char) (rest : List UInt8) :
    decodeLossy (String.utf8EncodeChar c ++ rest) = c :: decodeLossy rest := by
  have hvalid := toNat_valid c
  have hchar : charOf c.toNat = c := Char.ofNat_toNat c
  by_cases h1 : c.toNat ≤ 0x7f
  · -- one byte: the code point itself
    rw [utf8EncodeChar_one h1, List.singleton_append, decodeLossy_ascii (by simp; omega)]
    simp only [UInt8.toNat_ofNat']
    rw [Nat.mod_eq_of_lt (by omega), hchar]
  by_cases h2 : c.toNat ≤ 0x7ff
  · rw [utf8EncodeChar_two h1 h2, List.cons_append, List.singleton_append,
      decodeLossy_two (by simp; omega) (isContinuation_iff.2 (by simp; omega))]
    -- the payload bits put back together give the code point
    have hv : ((UInt8.ofNat (c.toNat / 64 % 0x20 + 0xc0)).toNat % 0x20) * 0x40 +
        (UInt8.ofNat (c.toNat % 0x40 + 0x80)).toNat % 0x40 = c.toNat := by
      simp; omega
    rw [hv, hchar]
  by_cases h3 : c.toNat ≤ 0xffff
  · rw [utf8EncodeChar_three h1 h2 h3, List.cons_append, List.cons_append, List.singleton_append,
      decodeLossy_three (by simp; omega) (thirdsSecondOk_utf8EncodeChar h2 h3)
        (isContinuation_iff.2 (by simp; omega))]
    have hv : ((UInt8.ofNat (c.toNat / 4096 % 0x10 + 0xe0)).toNat % 0x10) * 0x1000 +
        ((UInt8.ofNat (c.toNat / 64 % 0x40 + 0x80)).toNat % 0x40) * 0x40 +
        (UInt8.ofNat (c.toNat % 0x40 + 0x80)).toNat % 0x40 = c.toNat := by
      simp; omega
    rw [hv, hchar]
  · rw [utf8EncodeChar_four h1 h2 h3, List.cons_append, List.cons_append, List.cons_append,
      List.singleton_append,
      decodeLossy_four (by simp; omega) (fourthsSecondOk_utf8EncodeChar h3)
        (isContinuation_iff.2 (by simp; omega)) (isContinuation_iff.2 (by simp; omega))]
    have hv : ((UInt8.ofNat (c.toNat / 262144 % 0x08 + 0xf0)).toNat % 0x08) * 0x40000 +
        ((UInt8.ofNat (c.toNat / 4096 % 0x40 + 0x80)).toNat % 0x40) * 0x1000 +
        ((UInt8.ofNat (c.toNat / 64 % 0x40 + 0x80)).toNat % 0x40) * 0x40 +
        (UInt8.ofNat (c.toNat % 0x40 + 0x80)).toNat % 0x40 = c.toNat := by
      simp; omega
    rw [hv, hchar]

theorem decodeLossy_utf8 (s : String) : decodeLossy (utf8 s) = s.toList := by
  unfold utf8
  induction s.toList with
  | nil => simp [decodeLossy.eq_def]
  | cons c cs ih => rw [List.flatMap_cons, decodeLossy_utf8EncodeChar_append, ih]

/-- **Bytes written from a text read back as that text.** -/
@[simp]
theorem textOfBytes_utf8 (s : String) : textOfBytes (utf8 s) = s := by
  rw [textOfBytes, decodeLossy_utf8, String.ofList_toList]

/-! ## The strict check on a text's own bytes -/

theorem utf8Error?_ascii {b : UInt8} (hb : b.toNat < 0x80) (rest : List UInt8) :
    utf8Error? (b :: rest) = (utf8Error? rest).map (·.after 1) := by
  rw [utf8Error?.eq_def]
  simp [leadByte_one hb]

theorem utf8Error?_two {b c : UInt8} (hb : 0xC2 ≤ b.toNat ∧ b.toNat ≤ 0xDF)
    (hc : isContinuation c = true) (rest : List UInt8) :
    utf8Error? (b :: c :: rest) = (utf8Error? rest).map (·.after 2) := by
  obtain ⟨hb1, hb2⟩ := leadByte_two hb
  rw [utf8Error?.eq_def]
  simp [hb1, hb2, hc]

theorem utf8Error?_three {b c1 c2 : UInt8} (hb : 0xE0 ≤ b.toNat ∧ b.toNat ≤ 0xEF)
    (h1 : thirdsSecondOk b c1 = true) (h2 : isContinuation c2 = true) (rest : List UInt8) :
    utf8Error? (b :: c1 :: c2 :: rest) = (utf8Error? rest).map (·.after 3) := by
  obtain ⟨hb1, hb2, hb3⟩ := leadByte_three hb
  rw [utf8Error?.eq_def]
  simp [hb1, hb2, hb3, h1, h2]

theorem utf8Error?_four {b c1 c2 c3 : UInt8} (hb : 0xF0 ≤ b.toNat ∧ b.toNat ≤ 0xF4)
    (h1 : fourthsSecondOk b c1 = true) (h2 : isContinuation c2 = true)
    (h3 : isContinuation c3 = true) (rest : List UInt8) :
    utf8Error? (b :: c1 :: c2 :: c3 :: rest) = (utf8Error? rest).map (·.after 4) := by
  obtain ⟨hb1, hb2, hb3, hb4⟩ := leadByte_four hb
  rw [utf8Error?.eq_def]
  simp [hb1, hb2, hb3, hb4, h1, h2, h3]

/-- **A character's bytes pass the strict check**, and an error after them is reported that
many bytes further on. -/
theorem utf8Error?_utf8EncodeChar_append (c : Char) (rest : List UInt8) :
    utf8Error? (String.utf8EncodeChar c ++ rest) =
      (utf8Error? rest).map (·.after (String.utf8EncodeChar c).length) := by
  have hvalid := toNat_valid c
  by_cases h1 : c.toNat ≤ 0x7f
  · rw [utf8EncodeChar_one h1, List.singleton_append, utf8Error?_ascii (by simp; omega)]
    rfl
  by_cases h2 : c.toNat ≤ 0x7ff
  · rw [utf8EncodeChar_two h1 h2, List.cons_append, List.singleton_append,
      utf8Error?_two (by simp; omega) (isContinuation_iff.2 (by simp; omega))]
    rfl
  by_cases h3 : c.toNat ≤ 0xffff
  · rw [utf8EncodeChar_three h1 h2 h3, List.cons_append, List.cons_append, List.singleton_append,
      utf8Error?_three (by simp; omega) (thirdsSecondOk_utf8EncodeChar h2 h3)
        (isContinuation_iff.2 (by simp; omega))]
    rfl
  · rw [utf8EncodeChar_four h1 h2 h3, List.cons_append, List.cons_append, List.cons_append,
      List.singleton_append,
      utf8Error?_four (by simp; omega) (fourthsSecondOk_utf8EncodeChar h3)
        (isContinuation_iff.2 (by simp; omega)) (isContinuation_iff.2 (by simp; omega))]
    rfl

/-- **A text's own bytes are UTF-8** by the strict check: induction on its characters. -/
@[simp]
theorem utf8Error?_utf8 (s : String) : utf8Error? (utf8 s) = none := by
  unfold utf8
  induction s.toList with
  | nil => rfl
  | cons c cs ih => rw [List.flatMap_cons, utf8Error?_utf8EncodeChar_append, ih, Option.map_none]

end ScoreKeeper.Text
