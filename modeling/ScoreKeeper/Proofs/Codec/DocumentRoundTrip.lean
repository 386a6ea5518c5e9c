import Mathlib
import ScoreKeeper.Store.Document
import ScoreKeeper.Proofs.Codec.LineRoundTrip

/-!
# ScoreKeeper — every document reads back from its text

A document's text is its records' lines, each ended by a line feed. Reading it back splits at
line feeds, strips each line's framing (trailing carriage returns and line feeds, then spaces at
both ends), skips empty lines and decodes the rest. Whatever the records, in whatever order and
with whatever repeats, reading their text gives them back and refuses no line; so a stored
document decodes to itself, and re-encoding what was read is idempotent.

The lines survive because of what their ends are. A score line starts with a digit or `-` and
ends with a checksum digit; a pack line starts with a checksum digit and ends with the last
character of its text, which is neither a space (the text's own rule) nor a line break (a
forbidden character). Names with surrounding spaces, and texts ending in a tab or U+00A0, sit
inside the line and are left alone.

## The architecture

* **`trimLine_eq_self`** — a line that starts with no space and ends with no space or line break
  has no framing to strip.
* **`splitLines_encodeDocument`** — the text splits back into the lines and one empty tail
  (`List.splitOn_intercalate`), as long as no line holds a line feed.
* **`FramedLines`** — what a line format needs for this: lines read back, are not empty, hold no
  line feed and have no framing. **`FramedLines.inspect_encodeDocument`** reads a whole text back
  from it, by induction on the records.
* **`Score.framedLines`**, **`Note.framedLines`** — both formats have it.
* **`Document.decode_encode`**, **`Document.encode_decode_idem`** — the same for documents.
-/

namespace ScoreKeeper

/-! ## Framing -/

theorem dropTrailing_eq_self {α : Type} {p : α → Bool} {xs : List α}
    (h : ∀ c ∈ xs.getLast?, p c = false) : dropTrailing p xs = xs := by
  unfold dropTrailing
  cases hxs : xs.reverse with
  | nil => rw [List.dropWhile_nil, ← hxs, List.reverse_reverse]
  | cons c rest =>
    have hc : p c = false := h c (by rw [← List.head?_reverse, hxs]; rfl)
    rw [List.dropWhile_cons_of_neg (by simp [hc]), ← hxs, List.reverse_reverse]

theorem dropWhile_eq_self {α : Type} {p : α → Bool} {xs : List α}
    (h : ∀ c ∈ xs.head?, p c = false) : xs.dropWhile p = xs := by
  cases xs with
  | nil => rfl
  | cons c rest => exact List.dropWhile_cons_of_neg (by simp [h c rfl])

/-- **A line with no framing at its ends is left as it is.** -/
theorem trimLine_eq_self {s : String} (hhead : ∀ c ∈ s.toList.head?, c ≠ ' ')
    (hlast : ∀ c ∈ s.toList.getLast?, c ≠ ' ' ∧ c ≠ '\r' ∧ c ≠ '\n') : trimLine s = s := by
  have hbreaks : dropTrailing (fun c => c = '\r' || c = '\n') s.toList = s.toList :=
    dropTrailing_eq_self fun c hc => by simp [(hlast c hc).2.1, (hlast c hc).2.2]
  have hfront : s.toList.dropWhile (· = ' ') = s.toList :=
    dropWhile_eq_self fun c hc => by simpa using hhead c hc
  have hback : dropTrailing (· = ' ') s.toList = s.toList :=
    dropTrailing_eq_self fun c hc => by simpa using (hlast c hc).1
  rw [trimLine]
  simp only [hbreaks, hfront, hback, String.ofList_toList]

/-! ## Splitting a document into its lines -/

theorem toList_encodeDocument {α : Type} [LineRecord α] (k : ChecksumKey) (rs : List α) :
    (encodeDocument k rs).toList =
      ['\n'].intercalate (rs.map (fun r => (LineRecord.encode k r).toList) ++ [[]]) := by
  induction rs with
  | nil => rfl
  | cons r rs ih =>
    have hjoin : (encodeDocument k (r :: rs)).toList =
        (LineRecord.encode k r).toList ++ ['\n'] ++ (encodeDocument k rs).toList := by
      simp [encodeDocument, String.toList_append]
    -- the lines after the first are never empty: at least the final empty line is left
    obtain ⟨l, ls, hls⟩ : ∃ l ls,
        rs.map (fun r => (LineRecord.encode k r).toList) ++ [[]] = l :: ls :=
      List.exists_cons_of_ne_nil (by simp)
    rw [hjoin, ih, List.map_cons, List.cons_append, hls, List.intercalate_cons_cons]

/-- **A document's text splits back into its lines**, followed by the empty text after the
last line feed. -/
theorem splitLines_encodeDocument {α : Type} [LineRecord α] (k : ChecksumKey) {rs : List α}
    (h : ∀ r ∈ rs, '\n' ∉ (LineRecord.encode k r).toList) :
    splitLines (encodeDocument k rs) = rs.map (LineRecord.encode k) ++ [""] := by
  unfold splitLines
  rw [toList_encodeDocument, List.splitOn_intercalate]
  · simp [Function.comp_def, String.ofList_toList]
  · intro l hl
    simp only [List.mem_append, List.mem_map, List.mem_singleton] at hl
    rcases hl with ⟨r, hr, rfl⟩ | rfl
    · exact h r hr
    · simp
  · simp

/-! ## Line formats whose lines survive a document -/

/-- A line format whose lines survive a document: each line reads back to its record, is not
empty, holds no line feed and has no framing to strip. -/
structure FramedLines (α : Type) [LineRecord α] (k : ChecksumKey) : Prop where
  decode_encode : ∀ r : α, LineRecord.decode k (LineRecord.encode k r) = .ok r
  ne_empty : ∀ r : α, LineRecord.encode k r ≠ ""
  newline_not_mem : ∀ r : α, '\n' ∉ (LineRecord.encode k r).toList
  trimLine_encode : ∀ r : α, trimLine (LineRecord.encode k r) = LineRecord.encode k r

section FramedLines

variable {α : Type} [LineRecord α] {k : ChecksumKey}

theorem FramedLines.inspectLines_eq (h : FramedLines α k) (n : Nat) (rs : List α) :
    (inspectLines k n (rs.map (LineRecord.encode k) ++ [""]) : Report α) = ⟨rs, []⟩ := by
  -- induction on the records, the line number moving along with them
  induction rs generalizing n with
  | nil => rfl
  | cons r rs ih =>
    have hne : (LineRecord.encode k r).isEmpty = false := by
      simpa [String.isEmpty_iff] using h.ne_empty r
    simp only [List.map_cons, List.cons_append, inspectLines, h.trimLine_encode, hne,
      h.decode_encode, ih]
    rfl

/-- **Reading a document's text gives its records and refuses no line.** -/
theorem FramedLines.inspect_encodeDocument (h : FramedLines α k) (rs : List α) :
    (inspect k (encodeDocument k rs) : Report α) = ⟨rs, []⟩ := by
  unfold inspect
  rw [splitLines_encodeDocument k fun r _ => h.newline_not_mem r]
  exact h.inspectLines_eq 1 rs

theorem FramedLines.decodeDocument_encodeDocument (h : FramedLines α k) (rs : List α) :
    decodeDocument k (encodeDocument k rs) = rs := by
  unfold decodeDocument
  rw [h.inspect_encodeDocument]

end FramedLines

/-! ## The characters at the ends of a line

Numerals are digits with at most a leading `-`, so none of their characters is framing. -/

/-- A numeral is made of digits and at most a sign. -/
theorem mem_toString_int {i : Int} {c : Char} (hc : c ∈ (toString i).toList) :
    c.isDigit = true ∨ c = '-' := by
  rw [Int.toString_eq_repr, Int.repr_eq_if] at hc
  split at hc
  · exact .inl (Text.toList_repr_isDigit _ c hc)
  · rw [String.toList_append] at hc
    rcases List.mem_append.1 hc with hc | hc
    · exact .inr (by simpa using hc)
    · exact .inl (Text.toList_repr_isDigit _ c hc)

theorem toList_toString_int_ne_nil (i : Int) : (toString i).toList ≠ [] := by
  rw [Int.toString_eq_repr, Int.repr_eq_if]
  split
  · exact Text.toList_repr_ne_nil _
  · simp [String.toList_append]

theorem toString_nat_toList (n : Nat) : (toString n).toList = n.repr.toList := by
  rw [Nat.toString_eq_repr]

theorem not_framing_of_mem_toString_int {i : Int} {c : Char} (hc : c ∈ (toString i).toList) :
    c ≠ ' ' ∧ c ≠ '\r' ∧ c ≠ '\n' := by
  rcases mem_toString_int hc with hd | rfl
  · refine ⟨?_, ?_, ?_⟩ <;> (rintro rfl; exact absurd hd (by decide))
  · decide

theorem not_framing_of_mem_repr {n : Nat} {c : Char} (hc : c ∈ n.repr.toList) :
    c ≠ ' ' ∧ c ≠ '\r' ∧ c ≠ '\n' := by
  have hd := Text.toList_repr_isDigit n c hc
  refine ⟨?_, ?_, ?_⟩ <;> (rintro rfl; exact absurd hd (by decide))

theorem newline_mem_forbiddenChars : '\n' ∈ forbiddenChars := by decide

theorem return_mem_forbiddenChars : '\r' ∈ forbiddenChars := by decide

/-! ## Score lines -/

theorem Score.toList_encodeLine_eq (k : ChecksumKey) (s : Score) :
    (s.encodeLine k).toList = (toString s.points.toInt).toList ++
      ('~' :: s.name.toList ++ '~' :: (toString (k.ofScore s).toNat).toList) := by
  simp [Score.encodeLine, String.toList_append]

theorem Score.head?_encodeLine (k : ChecksumKey) (s : Score) :
    (s.encodeLine k).toList.head? = (toString s.points.toInt).toList.head? := by
  obtain ⟨a, rest, ha⟩ := List.exists_cons_of_ne_nil (toList_toString_int_ne_nil s.points.toInt)
  rw [Score.toList_encodeLine_eq, ha, List.cons_append, List.head?_cons, List.head?_cons]

theorem Score.getLast?_encodeLine (k : ChecksumKey) (s : Score) :
    (s.encodeLine k).toList.getLast? = (toString (k.ofScore s).toNat).toList.getLast? := by
  have hne : (toString (k.ofScore s).toNat).toList ≠ [] := by
    rw [toString_nat_toList]; exact Text.toList_repr_ne_nil _
  rw [Score.toList_encodeLine_eq, List.getLast?_append_of_ne_nil _ (by simp),
    List.getLast?_append_of_ne_nil _ (by simp), ← List.singleton_append,
    List.getLast?_append_of_ne_nil _ hne]

/-- Score lines survive a document: they start with the points and end with the checksum. -/
theorem Score.framedLines (k : ChecksumKey) : FramedLines Score k where
  decode_encode s := s.encodeLine_reads_back k
  ne_empty s := by
    intro h
    have := congrArg String.toList h
    rw [show LineRecord.encode k s = s.encodeLine k from rfl, Score.toList_encodeLine_eq] at this
    simp at this
  newline_not_mem s := by
    have hname := (fieldFault_eq_none_iff.1 s.valid).2.2
    rw [show LineRecord.encode k s = s.encodeLine k from rfl, Score.toList_encodeLine_eq]
    intro h
    simp only [List.mem_append, List.mem_cons] at h
    rcases h with h | (h | h) | h | h
    · exact (not_framing_of_mem_toString_int h).2.2 rfl
    · exact absurd h (by decide)
    · exact hname '\n' h newline_mem_forbiddenChars
    · exact absurd h (by decide)
    · rw [toString_nat_toList] at h
      exact (not_framing_of_mem_repr h).2.2 rfl
  trimLine_encode s := by
    rw [show LineRecord.encode k s = s.encodeLine k from rfl]
    apply trimLine_eq_self
    · intro c hc
      rw [Score.head?_encodeLine] at hc
      exact (not_framing_of_mem_toString_int (List.mem_of_mem_head? hc)).1
    · intro c hc
      rw [Score.getLast?_encodeLine, toString_nat_toList] at hc
      exact not_framing_of_mem_repr (List.mem_of_getLast? hc)

/-! ## Pack lines -/

theorem Note.toList_encodeLine_eq (k : ChecksumKey) (n : Note) :
    (n.encodeLine k).toList = (toString (k.ofNote n).toNat).toList ++ '~' :: n.text.toList := by
  simp [Note.encodeLine, String.toList_append]

/-- A pack line's text ends in neither a space nor a line break. -/
theorem Note.not_framing_of_getLast? (n : Note) {c : Char} (hc : c ∈ n.text.toList.getLast?) :
    c ≠ ' ' ∧ c ≠ '\r' ∧ c ≠ '\n' := by
  have hfree := (fieldFault_eq_none_iff.1 (fieldFault_of_noteFault n.valid)).2.2 c
    (List.mem_of_getLast? hc)
  have hspace : n.text.toList.getLast? ≠ some ' ' := by
    have h := n.valid
    unfold noteFault at h
    rw [fieldFault_of_noteFault n.valid] at h
    intro hlast
    simp [hlast] at h
  refine ⟨?_, fun h => hfree (h ▸ return_mem_forbiddenChars),
    fun h => hfree (h ▸ newline_mem_forbiddenChars)⟩
  rintro rfl
  exact hspace hc

/-- Pack lines survive a document: they start with the checksum and end with the text, which
ends in no space and no line break. -/
theorem Note.framedLines (k : ChecksumKey) : FramedLines Note k where
  decode_encode n := n.encodeLine_reads_back k
  ne_empty n := by
    intro h
    have := congrArg String.toList h
    rw [show LineRecord.encode k n = n.encodeLine k from rfl, Note.toList_encodeLine_eq] at this
    simp at this
  newline_not_mem n := by
    have htext := (fieldFault_eq_none_iff.1 (fieldFault_of_noteFault n.valid)).2.2
    rw [show LineRecord.encode k n = n.encodeLine k from rfl, Note.toList_encodeLine_eq]
    intro h
    simp only [List.mem_append, List.mem_cons] at h
    rcases h with h | h | h
    · rw [toString_nat_toList] at h
      exact (not_framing_of_mem_repr h).2.2 rfl
    · exact absurd h (by decide)
    · exact htext '\n' h newline_mem_forbiddenChars
  trimLine_encode n := by
    rw [show LineRecord.encode k n = n.encodeLine k from rfl]
    have hne : (toString (k.ofNote n).toNat).toList ≠ [] := by
      rw [toString_nat_toList]; exact Text.toList_repr_ne_nil _
    have htext : n.text.toList ≠ [] := by
      have := (fieldFault_eq_none_iff.1 (fieldFault_of_noteFault n.valid)).1
      simpa [String.isEmpty_iff] using this
    apply trimLine_eq_self
    · intro c hc
      rw [Note.toList_encodeLine_eq, List.head?_append_of_ne_nil _ hne, toString_nat_toList] at hc
      exact (not_framing_of_mem_repr (List.mem_of_mem_head? hc)).1
    · intro c hc
      rw [Note.toList_encodeLine_eq, List.getLast?_append_of_ne_nil _ (by simp),
        ← List.singleton_append, List.getLast?_append_of_ne_nil _ htext] at hc
      exact n.not_framing_of_getLast? hc

/-! ## Documents -/

@[simp]
theorem Document.kind_decode (kind : Kind) (k : ChecksumKey) (text : String) :
    (Document.decode kind k text).kind = kind := by
  cases kind <;> rfl

/-- **A document reads back from its text as a document of its kind.** -/
theorem Document.decode_encode (k : ChecksumKey) (d : Document) :
    Document.decode d.kind k (d.encode k) = d := by
  cases d with
  | leaderboard b =>
    show Document.leaderboard (.ofList (decodeDocument k (encodeDocument k b.entries))) = _
    rw [(Score.framedLines k).decodeDocument_encodeDocument]
    rfl
  | pack p =>
    show Document.pack (.ofList (decodeDocument k (encodeDocument k p.entries))) = _
    rw [(Note.framedLines k).decodeDocument_encodeDocument]
    rfl

/-- Re-encoding what was read from a text is a normal form: doing it again changes nothing. -/
theorem Document.encode_decode_idem (kind : Kind) (k : ChecksumKey) (text : String) :
    (Document.decode kind k ((Document.decode kind k text).encode k)).encode k =
      (Document.decode kind k text).encode k := by
  have h := Document.decode_encode k (Document.decode kind k text)
  rw [Document.kind_decode] at h
  rw [h]

/-- **Every list of records reads back from its document text with no line refused, every
document reads back from its text, and re-encoding a read text is idempotent.** -/
theorem encodeDocument_round_trip (k : ChecksumKey) :
    (∀ es : List Score, decodeDocument k (encodeDocument k es) = es ∧
      (inspect k (encodeDocument k es) : Report Score).rejected = []) ∧
    (∀ es : List Note, decodeDocument k (encodeDocument k es) = es ∧
      (inspect k (encodeDocument k es) : Report Note).rejected = []) ∧
    (∀ d : Document, Document.decode d.kind k (d.encode k) = d) ∧
    (∀ (kind : Kind) (text : String),
      (Document.decode kind k ((Document.decode kind k text).encode k)).encode k =
        (Document.decode kind k text).encode k) :=
  ⟨fun es => ⟨(Score.framedLines k).decodeDocument_encodeDocument es,
      by rw [(Score.framedLines k).inspect_encodeDocument]⟩,
    fun es => ⟨(Note.framedLines k).decodeDocument_encodeDocument es,
      by rw [(Note.framedLines k).inspect_encodeDocument]⟩,
    Document.decode_encode k, fun kind text => Document.encode_decode_idem kind k text⟩

end ScoreKeeper
