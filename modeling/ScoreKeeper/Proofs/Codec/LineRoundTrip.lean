import Mathlib
import ScoreKeeper.Codec.Line
import ScoreKeeper.Proofs.Text.Decimal

/-!
# ScoreKeeper — every record reads back from its line

A score is written `<points>~<name>~<checksum>` and a pack line `<checksum>~<text>`. Whatever
the record and the checksum key, reading the line back with the same key gives the record,
and the line fits its limit: at most 128 bytes for a score, 256 for a pack line.

## The architecture

* **`fieldFault_eq_none_iff`** — what a valid text field is: non-empty, within its byte limit,
  without a forbidden character. In particular it never holds the delimiter `~`.
* **`splitFields_eq`** — a line made of fields joined by `~`, none holding a `~`, splits back
  into those fields.
* **`readPoints_toString`**, **`readChecksum_toString`** — the number fields read back, over the
  whole 32-bit and 64-bit ranges (from `readInt_toString`), and their numerals take at most 11
  and 20 bytes.
* **`Score.encodeLine_reads_back`**, **`Note.encodeLine_reads_back`** — the round trips, and
  **`Score.encodeLine_size_le`**, **`Note.encodeLine_size_le`** — the byte bounds, assembled
  into **`decodeLine_encodeLine`**.
-/

namespace ScoreKeeper

/-! ## Valid fields -/

/-- A field passes its check exactly when it is non-empty, within `max` bytes and free of the
forbidden characters. -/
theorem fieldFault_eq_none_iff {f : Field} {max : Nat} {v : String} :
    fieldFault f max v = none ↔
      v.isEmpty = false ∧ v.utf8ByteSize ≤ max ∧ ∀ c ∈ v.toList, c ∉ forbiddenChars := by
  unfold fieldFault
  by_cases hempty : v.isEmpty = true
  · simp [hempty]
  · by_cases hlong : max < v.utf8ByteSize
    · simp [hempty, hlong]
    · simp [hempty, hlong, Nat.le_of_not_lt hlong, List.find?_eq_none]

theorem delimiter_mem_forbiddenChars : delimiter ∈ forbiddenChars := by
  decide

/-- A valid field never holds the delimiter. -/
theorem delimiter_not_mem_of_fieldFault {f : Field} {max : Nat} {v : String}
    (h : fieldFault f max v = none) : delimiter ∉ v.toList := fun hmem =>
  (fieldFault_eq_none_iff.1 h).2.2 delimiter hmem delimiter_mem_forbiddenChars

/-- A pack line's text passes the field check. -/
theorem fieldFault_of_noteFault {text : String} (h : noteFault text = none) :
    fieldFault .text noteMaxBytes text = none := by
  unfold noteFault at h
  split at h
  · cases h
  · assumption

/-- Building a score from a score's own name and points gives that score back. -/
theorem Score.make?_self (s : Score) : Score.make? s.name s.points = .ok s := by
  unfold Score.make?
  split
  · rfl
  · rename_i e h
    rw [s.valid] at h
    cases h

/-- Building a pack line from a pack line's own text gives that pack line back. -/
theorem Note.make?_self (n : Note) : Note.make? n.text = .ok n := by
  unfold Note.make?
  split
  · rfl
  · rename_i e h
    rw [n.valid] at h
    cases h

/-! ## Splitting a line

`splitFields` splits at every delimiter, so fields free of the delimiter and joined by it come
back as they were (`List.splitOn_intercalate`). -/

theorem toList_delimiter : "~".toList = [delimiter] := rfl

/-- **A line of fields joined by the delimiter splits back into the fields.** -/
theorem splitFields_eq {line : String} {fields : List String}
    (hline : line.toList = [delimiter].intercalate (fields.map String.toList))
    (hfree : ∀ f ∈ fields, delimiter ∉ f.toList) (hne : fields ≠ []) :
    splitFields line = fields := by
  unfold splitFields
  rw [hline, List.splitOn_intercalate]
  · rw [List.map_map]
    conv => rhs; rw [← List.map_id fields]
    apply List.map_congr_left
    intro f _
    exact String.ofList_toList
  · intro l hl
    obtain ⟨f, hf, rfl⟩ := List.mem_map.1 hl
    exact hfree f hf
  · simp [hne]

/-- A numeral holds no delimiter. -/
theorem delimiter_not_mem_repr (n : Nat) : delimiter ∉ n.repr.toList := fun hmem => by
  have := Text.toList_repr_isDigit n delimiter hmem
  exact absurd this (by decide)

theorem delimiter_not_mem_toString_int (i : Int) : delimiter ∉ (toString i).toList := by
  rw [Int.toString_eq_repr, Int.repr_eq_if]
  split
  · exact delimiter_not_mem_repr _
  · rw [String.toList_append]
    intro hmem
    rcases List.mem_append.1 hmem with hmem | hmem
    · exact absurd hmem (by decide)
    · exact delimiter_not_mem_repr _ hmem

/-! ## Number fields

The points of a score are read by `readInt` over the 32-bit signed range, the checksum over the
64-bit unsigned range; both accept the numerals `toString` writes, over the whole range. -/

theorem isDigits_repr (n : Nat) : isDigits n.repr.toList = true := by
  unfold isDigits
  rw [Bool.and_eq_true, List.all_eq_true]
  exact ⟨by simp, Text.toList_repr_isDigit n⟩

theorem isSignedDigits_toString (i : Int) : isSignedDigits (toString i).toList = true := by
  rw [Int.toString_eq_repr, Int.repr_eq_if]
  split
  · -- a natural numeral starts with a digit, not with a sign
    obtain ⟨c, rest, hcs⟩ := List.exists_cons_of_ne_nil (Text.toList_repr_ne_nil i.toNat)
    have hc : c.isDigit = true :=
      Text.toList_repr_isDigit i.toNat c (by rw [hcs]; exact List.mem_cons_self)
    have hminus : c ≠ '-' := fun h => by rw [h] at hc; exact absurd hc (by decide)
    rw [hcs]
    unfold isSignedDigits
    split
    · rename_i ds heq
      exact absurd (List.cons.inj heq).1 hminus
    · rw [← hcs]
      exact isDigits_repr _
  · -- a negative numeral is a `-` and the digits of the magnitude
    rw [String.toList_append, show "-".toList = ['-'] from rfl, List.singleton_append]
    exact isDigits_repr _

/-- **The points of every score read back from their numeral.** -/
theorem readPoints_toString (p : Int32) : readPoints (toString p.toInt) = .ok p := by
  have hpow : Int.pow 2 31 = 2147483648 := by decide
  have hlow : -Int.pow 2 31 ≤ p.toInt := by
    have := Int32.le_toInt p
    rw [hpow]
    norm_num at this ⊢
    exact this
  have hhigh : p.toInt ≤ Int.pow 2 31 - 1 := by
    have := Int32.toInt_lt p
    rw [hpow]
    norm_num at this ⊢
    omega
  unfold readPoints
  rw [if_pos (isSignedDigits_toString _), Text.readInt_toString hlow hhigh]
  simp only [Int32.ofInt_toInt]

/-- A natural number's numeral is the numeral of the same integer. -/
theorem toString_natCast (n : Nat) : toString (n : Int) = toString n := by
  rw [Int.toString_eq_repr, Int.repr_eq_if, if_pos (Int.natCast_nonneg n), Int.toNat_natCast,
    Nat.toString_eq_repr]

/-- **Every 64-bit checksum reads back from its numeral.** -/
theorem readChecksum_toString (c : UInt64) : readChecksum (toString c.toNat) = .ok c := by
  have hpow : Int.pow 2 64 = 18446744073709551616 := by decide
  have hhigh : (c.toNat : Int) ≤ Int.pow 2 64 - 1 := by
    have := UInt64.toNat_lt c
    rw [hpow]
    norm_num at this ⊢
    omega
  unfold readChecksum
  rw [if_pos (by rw [Nat.toString_eq_repr]; exact isDigits_repr _), ← toString_natCast,
    Text.readInt_toString (Int.natCast_nonneg _) hhigh]
  simp only [Int.toNat_natCast, UInt64.ofNat_toNat]

/-- A 32-bit integer's numeral has at most 11 bytes: ten digits and a sign. -/
theorem utf8ByteSize_toString_int32_le (p : Int32) : (toString p.toInt).utf8ByteSize ≤ 11 := by
  refine Text.utf8ByteSize_toString_int_le (by decide : 0 < 10) ?_
  have hlt := Int32.toInt_lt p
  have hle := Int32.le_toInt p
  have hpow : Nat.pow 10 10 = 10000000000 := by decide
  rw [hpow]
  norm_num at hlt hle
  omega

/-- A 64-bit checksum's numeral has at most 20 bytes. -/
theorem utf8ByteSize_toString_uint64_le (c : UInt64) : (toString c.toNat).utf8ByteSize ≤ 20 := by
  refine Text.utf8ByteSize_toString_nat_le (by decide) ?_
  have hlt := UInt64.toNat_lt c
  have hpow : Nat.pow 10 20 = 100000000000000000000 := by decide
  rw [hpow]
  norm_num at hlt
  omega

/-! ## Round trips and sizes -/

/-- The fields of a score's line. -/
theorem Score.toList_encodeLine (k : ChecksumKey) (s : Score) :
    (s.encodeLine k).toList = [delimiter].intercalate
      ([toString s.points.toInt, s.name, toString (k.ofScore s).toNat].map String.toList) := by
  simp [Score.encodeLine, String.toList_append, toList_delimiter, List.intercalate]

/-- The fields of a pack line's line. -/
theorem Note.toList_encodeLine (k : ChecksumKey) (n : Note) :
    (n.encodeLine k).toList = [delimiter].intercalate
      ([toString (k.ofNote n).toNat, n.text].map String.toList) := by
  simp [Note.encodeLine, String.toList_append, toList_delimiter, List.intercalate]

/-- A score's line has at most 11 bytes of points, 16 of name, 20 of checksum and two
delimiters: within the 128 allowed. -/
theorem Score.encodeLine_size_le (k : ChecksumKey) (s : Score) :
    (s.encodeLine k).utf8ByteSize ≤ scoreLineMaxBytes := by
  have hpoints := utf8ByteSize_toString_int32_le s.points
  have hname : s.name.utf8ByteSize ≤ nameMaxBytes := (fieldFault_eq_none_iff.1 s.valid).2.1
  have hsum := utf8ByteSize_toString_uint64_le (k.ofScore s)
  have hdelim : "~".utf8ByteSize = 1 := rfl
  unfold Score.encodeLine
  simp only [String.utf8ByteSize_append]
  unfold scoreLineMaxBytes
  unfold nameMaxBytes at hname
  omega

/-- A pack line's line has at most 20 bytes of checksum, a delimiter and 127 bytes of text:
within the 256 allowed. -/
theorem Note.encodeLine_size_le (k : ChecksumKey) (n : Note) :
    (n.encodeLine k).utf8ByteSize ≤ noteLineMaxBytes := by
  have htext : n.text.utf8ByteSize ≤ noteMaxBytes :=
    (fieldFault_eq_none_iff.1 (fieldFault_of_noteFault n.valid)).2.1
  have hsum := utf8ByteSize_toString_uint64_le (k.ofNote n)
  have hdelim : "~".utf8ByteSize = 1 := rfl
  unfold Note.encodeLine
  simp only [String.utf8ByteSize_append]
  unfold noteLineMaxBytes
  unfold noteMaxBytes at htext
  omega

/-- **A score reads back from its line.** -/
theorem Score.encodeLine_reads_back (k : ChecksumKey) (s : Score) :
    Score.decodeLine k (s.encodeLine k) = .ok s := by
  have hsplit : splitFields (s.encodeLine k) =
      [toString s.points.toInt, s.name, toString (k.ofScore s).toNat] := by
    refine splitFields_eq (Score.toList_encodeLine k s) ?_ (by simp)
    intro f hf
    simp only [List.mem_cons, List.not_mem_nil, or_false] at hf
    rcases hf with rfl | rfl | rfl
    · exact delimiter_not_mem_toString_int _
    · exact delimiter_not_mem_of_fieldFault s.valid
    · exact delimiter_not_mem_repr _
  unfold Score.decodeLine
  rw [if_neg (Nat.not_lt.2 (Score.encodeLine_size_le k s)), hsplit]
  dsimp only
  rw [readPoints_toString]
  simp only [bind, Except.bind, Score.make?_self, Except.mapError, readChecksum_toString,
    verifyChecksum, if_pos]

/-- **A pack line reads back from its line.** -/
theorem Note.encodeLine_reads_back (k : ChecksumKey) (n : Note) :
    Note.decodeLine k (n.encodeLine k) = .ok n := by
  have hsplit : splitFields (n.encodeLine k) = [toString (k.ofNote n).toNat, n.text] := by
    refine splitFields_eq (Note.toList_encodeLine k n) ?_ (by simp)
    intro f hf
    simp only [List.mem_cons, List.not_mem_nil, or_false] at hf
    rcases hf with rfl | rfl
    · exact delimiter_not_mem_repr _
    · exact delimiter_not_mem_of_fieldFault (fieldFault_of_noteFault n.valid)
  unfold Note.decodeLine
  rw [if_neg (Nat.not_lt.2 (Note.encodeLine_size_le k n)), hsplit]
  dsimp only
  rw [readChecksum_toString]
  simp only [bind, Except.bind, Note.make?_self, Except.mapError, verifyChecksum, if_pos]

/-- **Every record reads back from its line under the same key, and its line fits the limit**:
128 bytes for a score, 256 for a pack line. -/
theorem decodeLine_encodeLine (k : ChecksumKey) :
    (∀ s : Score, Score.decodeLine k (s.encodeLine k) = .ok s ∧
      (s.encodeLine k).utf8ByteSize ≤ scoreLineMaxBytes) ∧
    (∀ n : Note, Note.decodeLine k (n.encodeLine k) = .ok n ∧
      (n.encodeLine k).utf8ByteSize ≤ noteLineMaxBytes) :=
  ⟨fun s => ⟨s.encodeLine_reads_back k, s.encodeLine_size_le k⟩,
    fun n => ⟨n.encodeLine_reads_back k, n.encodeLine_size_le k⟩⟩

end ScoreKeeper
