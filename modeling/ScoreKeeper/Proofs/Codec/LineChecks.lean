import Mathlib
import ScoreKeeper.Proofs.Codec.LineRoundTrip

/-!
# ScoreKeeper — the order of a line's checks

Reading a line runs its checks in a fixed order and answers with the first that fails. For a
score line `S~N~K` the order is: the line's byte length (at most 128), its number of fields
(exactly 3, one more than its delimiters), the points `S`, the name `N`, the checksum digits `K`,
and last the checksum itself. A pack line `K~T` is checked for length (at most 256) and for two
fields, then `K`, then the text `T`, then the checksum.

Number fields follow a strict grammar: points are an optional `-` and one or more ASCII digits
(leading zeros allowed, no `+`) denoting a 32-bit integer, a checksum is one or more ASCII digits
denoting a value below `2 ^ 64`. A numeral past the range is refused as a whole, never truncated.

## The architecture

* **`natNumeral?`**, **`intNumeral?`** — the numbers numerals denote, stated on their characters
  with `Nat.ofDigitChars`, apart from the scanner.
* **`Text.scanDigits_zero`** — the scanner gives the value of its digits exactly when that value
  is within the limit. With it `readInt_of_natNumeral` and `readInt_minus_of_natNumeral` read
  numerals, and `readPoints_of_intNumeral`, `readPoints_of_not_fits`,
  `readChecksum_of_natNumeral`, `readChecksum_of_not_fits` decide the number fields.
* **`JoinsFields`** and **`splitFields_length`** — a line as fields joined by `~`, and the field
  count as the number of delimiters plus one.
* **`Score.decodeLine_of_fields`**, **`Note.decodeLine_of_fields`** — past the two shape checks,
  reading is the field checks in order; every later lemma rewrites with these.
* **`ScoreLineChecks`**, **`NoteLineChecks`** — the cascades, one field per check, and
  **`decodeLine_checks_in_order`**, both of them for every key.
-/

namespace ScoreKeeper

/-! ## Numerals -/

/-- The number a numeral of one or more ASCII digits denotes; leading zeros are allowed. -/
def natNumeral? (cs : List Char) : Option Nat :=
  if cs ≠ [] ∧ ∀ c ∈ cs, c.isDigit = true then some (Nat.ofDigitChars 10 cs 0) else none

/-- The integer a numeral denotes: an optional `-`, then one or more ASCII digits. -/
def intNumeral? : List Char → Option Int
  | '-' :: ds => (natNumeral? ds).map fun n : Nat => -(n : Int)
  | ds => (natNumeral? ds).map fun n : Nat => (n : Int)

/-- The range of a 32-bit integer. -/
def FitsInt32 (v : Int) : Prop :=
  Int32.minValue.toInt ≤ v ∧ v ≤ Int32.maxValue.toInt

theorem isDigits_iff {cs : List Char} :
    isDigits cs = true ↔ cs ≠ [] ∧ ∀ c ∈ cs, c.isDigit = true := by
  simp [isDigits]

theorem natNumeral?_eq_some {cs : List Char} {n : Nat} :
    natNumeral? cs = some n ↔ isDigits cs = true ∧ Nat.ofDigitChars 10 cs 0 = n := by
  unfold natNumeral?
  rw [isDigits_iff]
  split <;> simp_all

theorem isDigits_eq_isSome (cs : List Char) : isDigits cs = (natNumeral? cs).isSome := by
  unfold natNumeral?
  rw [Bool.eq_iff_iff, isDigits_iff]
  split <;> simp_all

theorem intNumeral?_of_head {cs : List Char} (h : cs.head? ≠ some '-') :
    intNumeral? cs = (natNumeral? cs).map fun n : Nat => (n : Int) := by
  unfold intNumeral?
  split
  · simp at h
  · rfl

theorem isSignedDigits_of_head {cs : List Char} (h : cs.head? ≠ some '-') :
    isSignedDigits cs = isDigits cs := by
  unfold isSignedDigits
  split
  · simp at h
  · rfl

theorem exists_eq_minus_cons {cs : List Char} (h : cs.head? = some '-') :
    ∃ ds, cs = '-' :: ds := by
  cases cs with
  | nil => simp at h
  | cons c ds =>
    simp only [List.head?_cons, Option.some.injEq] at h
    exact ⟨ds, by rw [h]⟩

/-- The score grammar's check accepts exactly the numerals that denote an integer. -/
theorem isSignedDigits_eq_isSome (cs : List Char) :
    isSignedDigits cs = (intNumeral? cs).isSome := by
  by_cases hminus : cs.head? = some '-'
  · obtain ⟨ds, rfl⟩ := exists_eq_minus_cons hminus
    simp [isSignedDigits, intNumeral?, isDigits_eq_isSome]
  · rw [isSignedDigits_of_head hminus, intNumeral?_of_head hminus, Option.isSome_map,
      isDigits_eq_isSome]

theorem fitsInt32_iff {v : Int} : FitsInt32 v ↔ -Int.pow 2 31 ≤ v ∧ v ≤ Int.pow 2 31 - 1 := by
  have hmin : Int32.minValue.toInt = -Int.pow 2 31 := by decide
  have hmax : Int32.maxValue.toInt = Int.pow 2 31 - 1 := by decide
  rw [FitsInt32, hmin, hmax]

theorem fitsInt32_toInt (p : Int32) : FitsInt32 p.toInt :=
  ⟨Int32.le_iff_toInt_le.1 (Int32.minValue_le p), Int32.le_iff_toInt_le.1 (Int32.le_maxValue p)⟩

theorem Int32.toInt_ofInt_of_fits {v : Int} (h : FitsInt32 v) : (Int32.ofInt v).toInt = v := by
  have hmin : Int32.minValue.toInt = -2147483648 := by decide
  have hmax : Int32.maxValue.toInt = 2147483647 := by decide
  obtain ⟨hlo, hhi⟩ := h
  rw [hmin] at hlo
  rw [hmax] at hhi
  exact Int32.toInt_ofInt_of_le (by norm_num; omega) (by norm_num; omega)

/-- The numerals `toString` writes denote their numbers. -/
theorem natNumeral?_toString (n : Nat) : natNumeral? (toString n).toList = some n := by
  rw [natNumeral?_eq_some, Nat.toString_eq_repr]
  refine ⟨isDigits_repr n, ?_⟩
  rw [Nat.toList_repr, Nat.ofDigitChars_ten_toDigits]

theorem intNumeral?_toString (i : Int) : intNumeral? (toString i).toList = some i := by
  rw [Int.toString_eq_repr, Int.repr_eq_if]
  split
  · -- the digits of a natural number, with no sign in front
    have hhead : i.toNat.repr.toList.head? ≠ some '-' := by
      intro h
      have := Text.toList_repr_isDigit i.toNat '-' (List.mem_of_mem_head? h)
      exact absurd this (by decide)
    rw [intNumeral?_of_head hhead, ← Nat.toString_eq_repr, natNumeral?_toString]
    simp only [Option.map_some, Option.some.injEq]
    omega
  · rw [String.toList_append, show "-".toList = ['-'] from rfl, List.singleton_append]
    show (natNumeral? (-i).toNat.repr.toList).map (fun n : Nat => -(n : Int)) = some i
    rw [← Nat.toString_eq_repr, natNumeral?_toString]
    simp only [Option.map_some, Option.some.injEq]
    omega

theorem delimiter_not_mem_of_natNumeral {cs : List Char} {n : Nat} (h : natNumeral? cs = some n) :
    delimiter ∉ cs := fun hmem => by
  have := (isDigits_iff.1 (natNumeral?_eq_some.1 h).1).2 delimiter hmem
  exact absurd this (by decide)

theorem delimiter_not_mem_of_intNumeral {cs : List Char} {v : Int} (h : intNumeral? cs = some v) :
    delimiter ∉ cs := by
  by_cases hminus : cs.head? = some '-'
  · obtain ⟨ds, rfl⟩ := exists_eq_minus_cons hminus
    obtain ⟨n, hn, -⟩ := Option.map_eq_some_iff.1
      (show (natNumeral? ds).map (fun n : Nat => -(n : Int)) = some v from h)
    rw [List.mem_cons, not_or]
    exact ⟨by decide, delimiter_not_mem_of_natNumeral hn⟩
  · rw [intNumeral?_of_head hminus] at h
    obtain ⟨n, hn, -⟩ := Option.map_eq_some_iff.1 h
    exact delimiter_not_mem_of_natNumeral hn

/-! ## Scanning digits

`scanDigits` stops at the first value past its limit. The value only grows digit by digit, so
it stops exactly when the value of all the digits is past the limit. -/

namespace Text

theorem scanDigits_eq_error {limit : Nat} {excess : IntError} {acc : Nat} {cs : List Char}
    (hdigits : ∀ c ∈ cs, c.isDigit = true) (hacc : acc ≤ limit)
    (hgt : limit < Nat.ofDigitChars 10 cs acc) :
    scanDigits limit excess acc cs = .error excess := by
  induction cs generalizing acc with
  | nil =>
    rw [Nat.ofDigitChars_nil] at hgt
    omega
  | cons c cs ih =>
    have hc : c.isDigit = true := hdigits c List.mem_cons_self
    rw [Nat.ofDigitChars_cons] at hgt
    simp only [scanDigits, digitValue?_of_isDigit hc]
    by_cases hover : limit < acc * 10 + (c.toNat - '0'.toNat)
    · rw [if_pos hover]
    · -- the next value is within the limit, and the rest of the digits go past it
      rw [if_neg hover]
      refine ih (fun d hd => hdigits d (List.mem_cons_of_mem c hd)) (by omega) ?_
      rwa [Nat.mul_comm]

/-- **Scanning digits from zero gives their value exactly when it is within the limit.** -/
theorem scanDigits_zero {limit : Nat} {excess : IntError} {cs : List Char}
    (hdigits : ∀ c ∈ cs, c.isDigit = true) :
    scanDigits limit excess 0 cs =
      if Nat.ofDigitChars 10 cs 0 ≤ limit then .ok (Nat.ofDigitChars 10 cs 0)
      else .error excess := by
  split
  · exact scanDigits_eq_ok hdigits ‹_›
  · exact scanDigits_eq_error hdigits (Nat.zero_le _) (by omega)

end Text

/-! ## Reading numerals -/

theorem readInt_of_natNumeral {low high : Int} {cs : List Char} {n : Nat}
    (h : natNumeral? cs = some n) :
    Text.readInt low high cs = if n ≤ high.toNat then .ok (n : Int) else .error .tooLarge := by
  obtain ⟨hdig, hval⟩ := natNumeral?_eq_some.1 h
  obtain ⟨hne, hall⟩ := isDigits_iff.1 hdig
  rw [Text.readInt_of_digits hall hne, Text.scanDigits_zero hall, hval]
  split <;> rfl

theorem readInt_minus_of_natNumeral {low high : Int} {ds : List Char} {n : Nat} (hlow : low < 0)
    (h : natNumeral? ds = some n) :
    Text.readInt low high ('-' :: ds) =
      if n ≤ low.natAbs then .ok (-(n : Int)) else .error .tooSmall := by
  obtain ⟨hdig, hval⟩ := natNumeral?_eq_some.1 h
  obtain ⟨hne, hall⟩ := isDigits_iff.1 hdig
  rw [Text.readInt_minus hlow hne, Text.scanDigits_zero hall, hval]
  split <;> rfl

/-- **A signed numeral reads as the integer it denotes when that lies in `[low, high]`**; past
the bounds the error says on which side. -/
theorem readInt_of_intNumeral {low high v : Int} {cs : List Char} (hlow : low < 0)
    (hhigh : 0 ≤ high) (h : intNumeral? cs = some v) :
    Text.readInt low high cs =
      if low ≤ v ∧ v ≤ high then .ok v
      else .error (if v < 0 then .tooSmall else .tooLarge) := by
  by_cases hminus : cs.head? = some '-'
  · obtain ⟨ds, rfl⟩ := exists_eq_minus_cons hminus
    obtain ⟨n, hn, rfl⟩ := Option.map_eq_some_iff.1
      (show (natNumeral? ds).map (fun n : Nat => -(n : Int)) = some v from h)
    rw [readInt_minus_of_natNumeral hlow hn]
    by_cases hn' : n ≤ low.natAbs
    · rw [if_pos hn', if_pos (by omega)]
    · rw [if_neg hn', if_neg (by omega), if_pos (by omega)]
  · rw [intNumeral?_of_head hminus] at h
    obtain ⟨n, hn, rfl⟩ := Option.map_eq_some_iff.1 h
    rw [readInt_of_natNumeral hn]
    by_cases hn' : n ≤ high.toNat
    · rw [if_pos hn', if_pos (by omega)]
    · rw [if_neg hn', if_neg (by omega), if_neg (by omega)]

theorem readPoints_of_intNumeral {S : String} {v : Int} (h : intNumeral? S.toList = some v)
    (hfit : FitsInt32 v) : readPoints S = .ok (Int32.ofInt v) := by
  have hpow : Int.pow 2 31 = 2147483648 := by decide
  unfold readPoints
  rw [isSignedDigits_eq_isSome, h, Option.isSome_some, if_pos rfl,
    readInt_of_intNumeral (by rw [hpow]; decide) (by rw [hpow]; decide) h,
    if_pos (fitsInt32_iff.1 hfit)]

theorem readPoints_of_not_fits {S : String}
    (h : ∀ v, intNumeral? S.toList = some v → ¬ FitsInt32 v) :
    readPoints S = .error (.invalidNumber .score S) := by
  have hpow : Int.pow 2 31 = 2147483648 := by decide
  unfold readPoints
  cases hnum : intNumeral? S.toList with
  | none =>
    rw [isSignedDigits_eq_isSome, hnum]
    rfl
  | some v =>
    rw [isSignedDigits_eq_isSome, hnum, Option.isSome_some, if_pos rfl,
      readInt_of_intNumeral (by rw [hpow]; decide) (by rw [hpow]; decide) hnum,
      if_neg fun hfit => h v hnum (fitsInt32_iff.2 hfit)]

theorem readChecksum_of_natNumeral {K : String} {c : Nat} (h : natNumeral? K.toList = some c)
    (hlt : c < UInt64.size) : readChecksum K = .ok (UInt64.ofNat c) := by
  have hpow : Int.pow 2 64 = 18446744073709551616 := by decide
  have hsize : UInt64.size = 18446744073709551616 := rfl
  unfold readChecksum
  rw [isDigits_eq_isSome, h, Option.isSome_some, if_pos rfl, readInt_of_natNumeral h,
    if_pos (by rw [hpow]; omega)]
  rfl

theorem readChecksum_of_not_fits {K : String}
    (h : ∀ c, natNumeral? K.toList = some c → UInt64.size ≤ c) :
    readChecksum K = .error (.invalidNumber .checksum K) := by
  have hpow : Int.pow 2 64 = 18446744073709551616 := by decide
  have hsize : UInt64.size = 18446744073709551616 := rfl
  unfold readChecksum
  cases hnum : natNumeral? K.toList with
  | none =>
    rw [isDigits_eq_isSome, hnum]
    rfl
  | some c =>
    have hc := h c hnum
    rw [isDigits_eq_isSome, hnum, Option.isSome_some, if_pos rfl, readInt_of_natNumeral hnum,
      if_neg (by rw [hpow]; omega)]

/-! ## Fields of a line -/

/-- A line made of `fields` joined by the delimiter, none of which holds one. -/
structure JoinsFields (line : String) (fields : List String) : Prop where
  toList_eq : line.toList = [delimiter].intercalate (fields.map String.toList)
  free : ∀ f ∈ fields, delimiter ∉ f.toList

theorem JoinsFields.splitFields_eq {line : String} {fields : List String}
    (h : JoinsFields line fields) (hne : fields ≠ []) : splitFields line = fields :=
  ScoreKeeper.splitFields_eq h.toList_eq h.free hne

theorem joinsFields_three {S N K : String} (hS : delimiter ∉ S.toList) (hN : delimiter ∉ N.toList)
    (hK : delimiter ∉ K.toList) : JoinsFields (S ++ "~" ++ N ++ "~" ++ K) [S, N, K] where
  toList_eq := by simp [String.toList_append, toList_delimiter, List.intercalate]
  free := by simp [hS, hN, hK]

theorem joinsFields_two {K T : String} (hK : delimiter ∉ K.toList) (hT : delimiter ∉ T.toList) :
    JoinsFields (K ++ "~" ++ T) [K, T] where
  toList_eq := by simp [String.toList_append, toList_delimiter, List.intercalate]
  free := by simp [hK, hT]

theorem length_splitOn {α : Type} [BEq α] [LawfulBEq α] (a : α) (xs : List α) :
    (xs.splitOn a).length = xs.count a + 1 := by
  induction xs with
  | nil => simp [List.splitOn_nil]
  | cons x xs ih =>
    -- a delimiter opens a new field; any other element extends the first one
    rw [List.splitOn_cons_eq_if_modifyHead]
    by_cases hx : x = a
    · simp [hx, ih]
    · simp [hx, ih]

/-- **A line has one field more than it has delimiters.** -/
theorem splitFields_length (line : String) :
    (splitFields line).length = line.toList.count delimiter + 1 := by
  simp [splitFields, length_splitOn]

/-! ## Score lines -/

namespace Score

variable (k : ChecksumKey)

theorem decodeLine_of_long {line : String} (h : scoreLineMaxBytes < line.utf8ByteSize) :
    Score.decodeLine k line = .error (.lineTooLong line.utf8ByteSize scoreLineMaxBytes) := by
  unfold decodeLine
  rw [if_pos h]

theorem decodeLine_of_count {line : String} (hsize : line.utf8ByteSize ≤ scoreLineMaxBytes)
    (hcount : line.toList.count delimiter + 1 ≠ 3) :
    Score.decodeLine k line = .error (.fieldCount 3 (line.toList.count delimiter + 1)) := by
  have hlen := splitFields_length line
  unfold decodeLine
  rw [if_neg (Nat.not_lt.2 hsize)]
  split
  · -- three fields would mean two delimiters
    rename_i p n c heq
    rw [heq] at hlen
    simp at hlen
    omega
  · rw [hlen]

/-- **Past the shape checks, a score line is its field checks in order**: the points, then the
name, then the checksum digits, then the checksum. -/
theorem decodeLine_of_fields {line S N K : String}
    (hsize : line.utf8ByteSize ≤ scoreLineMaxBytes) (hfields : JoinsFields line [S, N, K]) :
    Score.decodeLine k line = (do
      let points ← readPoints S
      let s ← (Score.make? N points).mapError .invalidField
      let stored ← readChecksum K
      verifyChecksum s stored (k.ofScore s)) := by
  unfold decodeLine
  rw [if_neg (Nat.not_lt.2 hsize), hfields.splitFields_eq (by simp)]

theorem make?_of_fault {N : String} {p : Int32} {e : FieldError}
    (h : fieldFault .name nameMaxBytes N = some e) : Score.make? N p = .error e := by
  unfold make?
  split
  · rename_i hnone
    rw [h] at hnone
    cases hnone
  · rename_i e' hsome
    rw [h] at hsome
    cases hsome
    rfl

/-- A score line whose fields name a score reads as that score's checksum check. -/
theorem decodeLine_of_score {line S K : String} {s : Score} {c : Nat}
    (hsize : line.utf8ByteSize ≤ scoreLineMaxBytes) (hfields : JoinsFields line [S, s.name, K])
    (hpoints : intNumeral? S.toList = some s.points.toInt) (hsum : natNumeral? K.toList = some c)
    (hlt : c < UInt64.size) :
    Score.decodeLine k line = verifyChecksum s (UInt64.ofNat c) (k.ofScore s) := by
  rw [decodeLine_of_fields k hsize hfields,
    readPoints_of_intNumeral hpoints (fitsInt32_toInt s.points), Int32.ofInt_toInt]
  simp only [bind, Except.bind, make?_self, Except.mapError, readChecksum_of_natNumeral hsum hlt]

end Score

/-! ## Pack lines -/

namespace Note

variable (k : ChecksumKey)

theorem decodeLine_of_long {line : String} (h : noteLineMaxBytes < line.utf8ByteSize) :
    Note.decodeLine k line = .error (.lineTooLong line.utf8ByteSize noteLineMaxBytes) := by
  unfold decodeLine
  rw [if_pos h]

theorem decodeLine_of_count {line : String} (hsize : line.utf8ByteSize ≤ noteLineMaxBytes)
    (hcount : line.toList.count delimiter + 1 ≠ 2) :
    Note.decodeLine k line = .error (.fieldCount 2 (line.toList.count delimiter + 1)) := by
  have hlen := splitFields_length line
  unfold decodeLine
  rw [if_neg (Nat.not_lt.2 hsize)]
  split
  · rename_i c t heq
    rw [heq] at hlen
    simp at hlen
    omega
  · rw [hlen]

/-- **Past the shape checks, a pack line is its field checks in order**: the checksum digits,
then the text, then the checksum. -/
theorem decodeLine_of_fields {line K T : String}
    (hsize : line.utf8ByteSize ≤ noteLineMaxBytes) (hfields : JoinsFields line [K, T]) :
    Note.decodeLine k line = (do
      let stored ← readChecksum K
      let n ← (Note.make? T).mapError .invalidField
      verifyChecksum n stored (k.ofNote n)) := by
  unfold decodeLine
  rw [if_neg (Nat.not_lt.2 hsize), hfields.splitFields_eq (by simp)]

theorem make?_of_fault {T : String} {e : FieldError} (h : noteFault T = some e) :
    Note.make? T = .error e := by
  unfold make?
  split
  · rename_i hnone
    rw [h] at hnone
    cases hnone
  · rename_i e' hsome
    rw [h] at hsome
    cases hsome
    rfl

/-- A pack line whose fields name a pack line reads as that line's checksum check. -/
theorem decodeLine_of_note {line K : String} {n : Note} {c : Nat}
    (hsize : line.utf8ByteSize ≤ noteLineMaxBytes) (hfields : JoinsFields line [K, n.text])
    (hsum : natNumeral? K.toList = some c) (hlt : c < UInt64.size) :
    Note.decodeLine k line = verifyChecksum n (UInt64.ofNat c) (k.ofNote n) := by
  rw [decodeLine_of_fields k hsize hfields, readChecksum_of_natNumeral hsum hlt]
  simp only [bind, Except.bind, make?_self, Except.mapError]

end Note

/-! ## What makes a text field fail

With no delimiter in it, a name fails its check exactly when it is empty, longer than 16 bytes,
or holds a line feed, a carriage return or a NUL; a pack text also when it ends in a space. -/

theorem mem_forbiddenChars_of_ne_delimiter {c : Char} (hc : c ≠ delimiter) :
    c ∈ forbiddenChars ↔ c = '\n' ∨ c = '\r' ∨ c = '\x00' := by
  simp [forbiddenChars, hc]

theorem fieldFault_isSome {f : Field} {max : Nat} {v : String} (hfree : delimiter ∉ v.toList)
    (h : v = "" ∨ max < v.utf8ByteSize ∨ ∃ c ∈ v.toList, c = '\n' ∨ c = '\r' ∨ c = '\x00') :
    ∃ e, fieldFault f max v = some e := by
  rw [← Option.isSome_iff_exists, Option.isSome_iff_ne_none]
  intro hnone
  obtain ⟨hne, hle, hchars⟩ := fieldFault_eq_none_iff.1 hnone
  rcases h with rfl | hlong | ⟨c, hc, hbad⟩
  · exact absurd hne (by decide)
  · omega
  · have hcd : c ≠ delimiter := fun hcd => hfree (hcd ▸ hc)
    exact hchars c hc ((mem_forbiddenChars_of_ne_delimiter hcd).2 hbad)

theorem noteFault_isSome {T : String} (hfree : delimiter ∉ T.toList)
    (h : T = "" ∨ noteMaxBytes < T.utf8ByteSize ∨
      (∃ c ∈ T.toList, c = '\n' ∨ c = '\r' ∨ c = '\x00') ∨ T.toList.getLast? = some ' ') :
    ∃ e, noteFault T = some e := by
  unfold noteFault
  split
  · rename_i e _
    exact ⟨e, rfl⟩
  · rename_i hnone
    rcases h with h | h | h | hspace
    · exact absurd hnone (Option.ne_none_iff_exists'.2 (fieldFault_isSome hfree (.inl h)))
    · exact absurd hnone (Option.ne_none_iff_exists'.2 (fieldFault_isSome hfree (.inr (.inl h))))
    · exact absurd hnone (Option.ne_none_iff_exists'.2 (fieldFault_isSome hfree (.inr (.inr h))))
    · exact ⟨_, if_pos hspace⟩

/-! ## The cascades -/

/-- **The checks of a score line `S~N~K`, in the order they decide.** Each field states one
check, under the hypothesis that every earlier one passed. -/
structure ScoreLineChecks (k : ChecksumKey) : Prop where
  tooLong : ∀ line : String, scoreLineMaxBytes < line.utf8ByteSize →
    Score.decodeLine k line = .error (.lineTooLong line.utf8ByteSize scoreLineMaxBytes)
  fieldCount : ∀ line : String, line.utf8ByteSize ≤ scoreLineMaxBytes →
    line.toList.count delimiter + 1 ≠ 3 →
    Score.decodeLine k line = .error (.fieldCount 3 (line.toList.count delimiter + 1))
  points : ∀ line S N K : String, line.utf8ByteSize ≤ scoreLineMaxBytes →
    JoinsFields line [S, N, K] → (∀ v, intNumeral? S.toList = some v → ¬ FitsInt32 v) →
    Score.decodeLine k line = .error (.invalidNumber .score S)
  name : ∀ (line S N K : String) (v : Int), line.utf8ByteSize ≤ scoreLineMaxBytes →
    JoinsFields line [S, N, K] → intNumeral? S.toList = some v → FitsInt32 v →
    (N = "" ∨ nameMaxBytes < N.utf8ByteSize ∨ ∃ c ∈ N.toList, c = '\n' ∨ c = '\r' ∨ c = '\x00') →
    ∃ e, fieldFault .name nameMaxBytes N = some e ∧
      Score.decodeLine k line = .error (.invalidField e)
  checksum : ∀ (line S K : String) (s : Score), line.utf8ByteSize ≤ scoreLineMaxBytes →
    JoinsFields line [S, s.name, K] → intNumeral? S.toList = some s.points.toInt →
    (∀ c, natNumeral? K.toList = some c → UInt64.size ≤ c) →
    Score.decodeLine k line = .error (.invalidNumber .checksum K)
  mismatch : ∀ (line S K : String) (s : Score) (c : Nat), line.utf8ByteSize ≤ scoreLineMaxBytes →
    JoinsFields line [S, s.name, K] → intNumeral? S.toList = some s.points.toInt →
    natNumeral? K.toList = some c → c < UInt64.size → UInt64.ofNat c ≠ k.ofScore s →
    Score.decodeLine k line = .error (.checksumMismatch (UInt64.ofNat c) (k.ofScore s))
  accepted : ∀ (line S K : String) (s : Score) (c : Nat), line.utf8ByteSize ≤ scoreLineMaxBytes →
    JoinsFields line [S, s.name, K] → intNumeral? S.toList = some s.points.toInt →
    natNumeral? K.toList = some c → c < UInt64.size → UInt64.ofNat c = k.ofScore s →
    Score.decodeLine k line = .ok s

/-- **The checks of a pack line `K~T`, in the order they decide.** -/
structure NoteLineChecks (k : ChecksumKey) : Prop where
  tooLong : ∀ line : String, noteLineMaxBytes < line.utf8ByteSize →
    Note.decodeLine k line = .error (.lineTooLong line.utf8ByteSize noteLineMaxBytes)
  fieldCount : ∀ line : String, line.utf8ByteSize ≤ noteLineMaxBytes →
    line.toList.count delimiter + 1 ≠ 2 →
    Note.decodeLine k line = .error (.fieldCount 2 (line.toList.count delimiter + 1))
  checksum : ∀ line K T : String, line.utf8ByteSize ≤ noteLineMaxBytes →
    JoinsFields line [K, T] → (∀ c, natNumeral? K.toList = some c → UInt64.size ≤ c) →
    Note.decodeLine k line = .error (.invalidNumber .checksum K)
  text : ∀ (line K T : String) (c : Nat), line.utf8ByteSize ≤ noteLineMaxBytes →
    JoinsFields line [K, T] → natNumeral? K.toList = some c → c < UInt64.size →
    (T = "" ∨ noteMaxBytes < T.utf8ByteSize ∨ (∃ ch ∈ T.toList, ch = '\n' ∨ ch = '\r' ∨
      ch = '\x00') ∨ T.toList.getLast? = some ' ') →
    ∃ e, noteFault T = some e ∧ Note.decodeLine k line = .error (.invalidField e)
  mismatch : ∀ (line K : String) (n : Note) (c : Nat), line.utf8ByteSize ≤ noteLineMaxBytes →
    JoinsFields line [K, n.text] → natNumeral? K.toList = some c → c < UInt64.size →
    UInt64.ofNat c ≠ k.ofNote n →
    Note.decodeLine k line = .error (.checksumMismatch (UInt64.ofNat c) (k.ofNote n))
  accepted : ∀ (line K : String) (n : Note) (c : Nat), line.utf8ByteSize ≤ noteLineMaxBytes →
    JoinsFields line [K, n.text] → natNumeral? K.toList = some c → c < UInt64.size →
    UInt64.ofNat c = k.ofNote n → Note.decodeLine k line = .ok n

theorem scoreLineChecks (k : ChecksumKey) : ScoreLineChecks k where
  tooLong _ h := Score.decodeLine_of_long k h
  fieldCount _ hsize hcount := Score.decodeLine_of_count k hsize hcount
  points line S N K hsize hfields hbad := by
    rw [Score.decodeLine_of_fields k hsize hfields, readPoints_of_not_fits hbad]
    rfl
  name line S N K v hsize hfields hnum hfit hbad := by
    obtain ⟨e, he⟩ := fieldFault_isSome (hfields.free N (by simp)) hbad
    refine ⟨e, he, ?_⟩
    rw [Score.decodeLine_of_fields k hsize hfields, readPoints_of_intNumeral hnum hfit]
    simp only [bind, Except.bind, Score.make?_of_fault he, Except.mapError]
  checksum line S K s hsize hfields hnum hbad := by
    rw [Score.decodeLine_of_fields k hsize hfields,
      readPoints_of_intNumeral hnum (fitsInt32_toInt s.points), Int32.ofInt_toInt]
    simp only [bind, Except.bind, Score.make?_self, Except.mapError, readChecksum_of_not_fits hbad]
  mismatch line S K s c hsize hfields hnum hsum hlt hne := by
    rw [Score.decodeLine_of_score k hsize hfields hnum hsum hlt, verifyChecksum, if_neg hne]
  accepted line S K s c hsize hfields hnum hsum hlt heq := by
    rw [Score.decodeLine_of_score k hsize hfields hnum hsum hlt, verifyChecksum, if_pos heq]

theorem noteLineChecks (k : ChecksumKey) : NoteLineChecks k where
  tooLong _ h := Note.decodeLine_of_long k h
  fieldCount _ hsize hcount := Note.decodeLine_of_count k hsize hcount
  checksum line K T hsize hfields hbad := by
    rw [Note.decodeLine_of_fields k hsize hfields, readChecksum_of_not_fits hbad]
    rfl
  text line K T c hsize hfields hsum hlt hbad := by
    obtain ⟨e, he⟩ := noteFault_isSome (hfields.free T (by simp)) hbad
    refine ⟨e, he, ?_⟩
    rw [Note.decodeLine_of_fields k hsize hfields, readChecksum_of_natNumeral hsum hlt]
    simp only [bind, Except.bind, Note.make?_of_fault he, Except.mapError]
  mismatch line K n c hsize hfields hsum hlt hne := by
    rw [Note.decodeLine_of_note k hsize hfields hsum hlt, verifyChecksum, if_neg hne]
  accepted line K n c hsize hfields hsum hlt heq := by
    rw [Note.decodeLine_of_note k hsize hfields hsum hlt, verifyChecksum, if_pos heq]

/-- **Under every key, reading a score line or a pack line answers with the first check that
fails, in the order length, field count, number and text fields, checksum.** -/
theorem decodeLine_checks_in_order (k : ChecksumKey) : ScoreLineChecks k ∧ NoteLineChecks k :=
  ⟨scoreLineChecks k, noteLineChecks k⟩

end ScoreKeeper
