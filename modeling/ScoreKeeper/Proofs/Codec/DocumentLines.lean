import Mathlib
import ScoreKeeper.Codec.Document
import ScoreKeeper.Proofs.Codec.LineChecks

/-!
# ScoreKeeper — a document is read one line at a time

Reading a document never looks across a line feed. Every line of the text, numbered from 1,
gives its own verdict: nothing when it is blank after trimming, else its record or its refusal
with its number and its trimmed text. The report lists the records and the refusals in the
order of their lines. So a text cut at one of its line feeds reads as its two halves read
apart, the second half's refusals renumbered past the first half's lines: a line that does not
decode can neither swallow nor move a line that does.

## The architecture

* **`lineVerdict`**, **`verdicts`** — what each line gives, and the verdicts of a list of lines
  numbered from a start.
* **`inspectLines_eq_ofVerdicts`** — the report is read off the verdicts. This is the one
  induction on the reader; the rest is list algebra on its right-hand side.
* **`verdicts_append`**, **`verdicts_add`** — the verdicts of joined lines are joined, and a
  later start renumbers refusals and keeps records.
* **`splitLines_append_newline`**, **`length_splitLines`** — a text cut at a line feed splits
  into the lines of its halves, and has one line more than line feeds.
* **`inspect_append_newline`** — the law for whole texts.
-/

namespace ScoreKeeper

/-- A refused line, `m` lines further down. -/
def RejectedLine.shift (m : Nat) (r : RejectedLine) : RejectedLine :=
  { r with lineNo := r.lineNo + m }

/-- What line `n` of a document gives: nothing when it is blank after trimming, else its
record or its refusal. -/
def lineVerdict {α : Type} [LineRecord α] (k : ChecksumKey) (n : Nat) (raw : String) :
    Option (RejectedLine ⊕ α) :=
  if (trimLine raw).isEmpty then none
  else
    match LineRecord.decode k (trimLine raw) with
    | .ok e => some (.inr e)
    | .error err => some (.inl ⟨n, trimLine raw, err⟩)

/-- The verdicts of lines numbered from `n`, in order, the blank ones left out. -/
def verdicts {α : Type} [LineRecord α] (k : ChecksumKey) (n : Nat) (lines : List String) :
    List (RejectedLine ⊕ α) :=
  (lines.zipIdx n).filterMap fun p => lineVerdict k p.2 p.1

/-- The report made of verdicts: the records and the refusals, each in order. -/
def Report.ofVerdicts {α : Type} (vs : List (RejectedLine ⊕ α)) : Report α :=
  ⟨vs.filterMap Sum.getRight?, vs.filterMap Sum.getLeft?⟩

section Verdicts

variable {α : Type} [LineRecord α] (k : ChecksumKey)

@[simp] theorem verdicts_nil (n : Nat) : (verdicts k n [] : List (RejectedLine ⊕ α)) = [] := rfl

@[simp] theorem verdicts_cons (n : Nat) (raw : String) (lines : List String) :
    (verdicts k n (raw :: lines) : List (RejectedLine ⊕ α)) =
      ((lineVerdict k n raw).toList ++ verdicts k (n + 1) lines) := by
  cases h : (lineVerdict k n raw : Option (RejectedLine ⊕ α)) <;>
    simp [verdicts, h]

/-- **The report is read off the verdicts**: each line gives one record, one refusal or, when
blank, nothing, and the report keeps them in the order of the lines. -/
theorem inspectLines_eq_ofVerdicts (n : Nat) (lines : List String) :
    (inspectLines k n lines : Report α) = Report.ofVerdicts (verdicts k n lines) := by
  -- induction on the lines, the number moving along with them
  induction lines generalizing n with
  | nil => rfl
  | cons raw lines ih =>
    rw [inspectLines, ih (n + 1), verdicts_cons]
    by_cases hblank : (trimLine raw).isEmpty
    · simp [lineVerdict, hblank]
    · cases hdec : (LineRecord.decode k (trimLine raw) : Except CodecError α) <;>
        simp [lineVerdict, hblank, hdec, Report.ofVerdicts, List.filterMap_cons]

/-- The verdicts of joined lines are the verdicts of each part, the second part numbered on. -/
theorem verdicts_append (n : Nat) (xs ys : List String) :
    (verdicts k n (xs ++ ys) : List (RejectedLine ⊕ α)) =
      verdicts k n xs ++ verdicts k (n + xs.length) ys := by
  rw [verdicts, List.zipIdx_append, List.filterMap_append]
  rfl

/-- A line's verdict `m` lines further down: the same record, or the same refusal renumbered. -/
theorem lineVerdict_add (n m : Nat) (raw : String) :
    (lineVerdict k (n + m) raw : Option (RejectedLine ⊕ α)) =
      (lineVerdict k n raw).map (Sum.map (RejectedLine.shift m) id) := by
  unfold lineVerdict
  by_cases hblank : (trimLine raw).isEmpty
  · simp [hblank]
  · cases hdec : (LineRecord.decode k (trimLine raw) : Except CodecError α) <;>
      simp [hblank, RejectedLine.shift]

/-- Numbering lines from a later start renumbers their refusals and keeps their records. -/
theorem verdicts_add (n m : Nat) (lines : List String) :
    (verdicts k (n + m) lines : List (RejectedLine ⊕ α)) =
      (verdicts k n lines).map (Sum.map (RejectedLine.shift m) id) := by
  induction lines generalizing n with
  | nil => rfl
  | cons raw lines ih =>
    rw [verdicts_cons, verdicts_cons, lineVerdict_add, Nat.add_right_comm, ih, List.map_append]
    cases (lineVerdict k n raw : Option (RejectedLine ⊕ α)) <;> rfl

end Verdicts

section Reports

variable {α : Type}

@[simp] theorem Report.ofVerdicts_entries (vs : List (RejectedLine ⊕ α)) :
    (Report.ofVerdicts vs).entries = vs.filterMap Sum.getRight? := rfl

@[simp] theorem Report.ofVerdicts_rejected (vs : List (RejectedLine ⊕ α)) :
    (Report.ofVerdicts vs).rejected = vs.filterMap Sum.getLeft? := rfl

/-- Renumbering refusals keeps the records. -/
theorem filterMap_getRight?_shift (m : Nat) (vs : List (RejectedLine ⊕ α)) :
    (vs.map (Sum.map (RejectedLine.shift m) id)).filterMap Sum.getRight? =
      vs.filterMap Sum.getRight? := by
  simp [List.filterMap_map]

theorem filterMap_getLeft?_shift (m : Nat) (vs : List (RejectedLine ⊕ α)) :
    (vs.map (Sum.map (RejectedLine.shift m) id)).filterMap Sum.getLeft? =
      (vs.filterMap Sum.getLeft?).map (RejectedLine.shift m) := by
  simp [List.filterMap_map, List.map_filterMap]

end Reports

/-! ## Texts cut at a line feed -/

/-- **A text cut at a line feed splits into the lines of its two halves.** -/
theorem splitLines_append_newline (a b : String) :
    splitLines (a ++ "\n" ++ b) = splitLines a ++ splitLines b := by
  have hchars : (a ++ "\n" ++ b).toList = a.toList ++ '\n' :: b.toList := by
    simp [String.toList_append]
  rw [splitLines, hchars, List.splitOn_append_cons_self, List.map_append]
  rfl

/-- A text has one line more than it has line feeds. -/
theorem length_splitLines (text : String) :
    (splitLines text).length = text.toList.count '\n' + 1 := by
  simp [splitLines, length_splitOn]

/-- **Reading a document line by line.** For either kind of record, a text cut at a line feed
reads as its two halves read apart: the records of the first half then those of the second,
and the same for the refused lines, the second half's renumbered past the first half's lines
(its line feeds plus one). And any text reads as the verdicts of its lines: each line whose
trimmed text is not empty gives exactly one record or one refusal carrying its 1-based number
and trimmed text, in the order of the lines, and blank lines give nothing. -/
theorem inspect_line_by_line {α : Type} [LineRecord α] (k : ChecksumKey) :
    (∀ a b : String,
      (decodeDocument k (a ++ "\n" ++ b) : List α) = decodeDocument k a ++ decodeDocument k b ∧
      (inspect k (a ++ "\n" ++ b) : Report α).rejected =
        (inspect k a : Report α).rejected ++
          (inspect k b : Report α).rejected.map (RejectedLine.shift (a.toList.count '\n' + 1))) ∧
    ∀ text : String,
      (inspect k text : Report α) = Report.ofVerdicts (verdicts k 1 (splitLines text)) := by
  have hreads : ∀ text : String,
      (inspect k text : Report α) = Report.ofVerdicts (verdicts k 1 (splitLines text)) :=
    fun text => inspectLines_eq_ofVerdicts k 1 (splitLines text)
  refine ⟨fun a b => ?_, hreads⟩
  -- the second half's lines are numbered from `1 + (count + 1)`
  have hsplit : (verdicts k 1 (splitLines (a ++ "\n" ++ b)) : List (RejectedLine ⊕ α)) =
      verdicts k 1 (splitLines a) ++
        (verdicts k 1 (splitLines b)).map
          (Sum.map (RejectedLine.shift (a.toList.count '\n' + 1)) id) := by
    rw [splitLines_append_newline, verdicts_append, length_splitLines, verdicts_add]
  constructor
  · simp only [decodeDocument, hreads, hsplit, Report.ofVerdicts_entries, List.filterMap_append,
      filterMap_getRight?_shift]
  · simp only [hreads, hsplit, Report.ofVerdicts_rejected, List.filterMap_append,
      filterMap_getLeft?_shift]

-- a blank second line keeps its number, and a refused line is reported trimmed
example : ((inspect .default "junk\n\n x \r" : Report Score).rejected.map
    fun r => (r.lineNo, r.content)) = [(1, "junk"), (3, "x")] := by decide

end ScoreKeeper
