import Mathlib
import ScoreKeeper.Proofs.Board.Placement

/-!
# ScoreKeeper — one score added to a well-formed board

A board is well formed (`Leaderboard.Valid`) when its points never rise, its names are
distinct and it holds at most 999 scores. On such a board `Leaderboard.add` does exactly one
of four things, which `Leaderboard.Adds` lists without reference to the code:

* the player is on the board with at least the new points: nothing changes (`kept`);
* the player is on the board with fewer points: the old score leaves and the new one is
  placed after every score at least as high (`improved`);
* the player is new and there is room, or the new points beat the last place: the score is
  placed the same way and the board is cut to 999 (`inserted`);
* the player is new, the board is full and the last place is at least as high: nothing
  changes (`overflowed`).

## The architecture

* **`Valid.add_of_mem`**, **`Valid.add_of_absent`** — what `add` computes on a well-formed
  board, with the duplicate collapse and the cut already discharged. Every later theorem
  about boards starts from these two.
* **`Leaderboard.add_eq_iff_adds`** — on a well-formed board, `add` answers `(o, b')` exactly
  when `Adds b e o b'`: both directions, case by case.
* **`Valid.add`** and **`valid_addAll`** — the step lemma and the run lemma: adding keeps a
  board well formed, so every board built by adds from the empty one is.
-/

namespace ScoreKeeper

instance (xs : List Score) : Decidable (Ranked xs) :=
  inferInstanceAs (Decidable (xs.Pairwise _))

/-- A well-formed board: points never rise, names are distinct, at most 999 scores. -/
structure Leaderboard.Valid (b : Leaderboard) : Prop where
  ranked : Ranked b.entries
  nodup : (names b.entries).Nodup
  bounded : b.size ≤ maxEntries

instance (b : Leaderboard) : Decidable b.Valid :=
  decidable_of_iff (Ranked b.entries ∧ (names b.entries).Nodup ∧ b.size ≤ maxEntries)
    ⟨fun ⟨h₁, h₂, h₃⟩ => ⟨h₁, h₂, h₃⟩, fun ⟨h₁, h₂, h₃⟩ => ⟨h₁, h₂, h₃⟩⟩

/-- The board after adding scores one after another, first to last. -/
def Leaderboard.addAll (b : Leaderboard) (ops : List Score) : Leaderboard :=
  ops.foldl (fun b e => (b.add e).2) b

@[simp] theorem Leaderboard.addAll_nil (b : Leaderboard) : b.addAll [] = b := rfl

@[simp] theorem Leaderboard.addAll_cons (b : Leaderboard) (e : Score) (ops : List Score) :
    b.addAll (e :: ops) = (b.add e).2.addAll ops := rfl

/-- `xs` with `e` placed directly after the scores at least as high as its own, and before the
lower ones. On a ranked list the higher scores lead, so `e` stands right after the last of them. -/
def placeScore (e : Score) (xs : List Score) : List Score :=
  xs.filter (fun x => e.points ≤ x.points) ++ e :: xs.filter (fun x => x.points < e.points)

/-- What adding `e` to the board `b` answers and leaves, case by case: a player holding at least
as much keeps the board; a player holding less is moved to `e`'s place; a new player is placed
when there is room or `e` beats the last place, and the board cut; otherwise the board stays. -/
inductive Leaderboard.Adds (b : Leaderboard) (e : Score) : AddOutcome → Leaderboard → Prop
  | kept (x : Score) (hx : x ∈ b.entries) (hname : x.name = e.name) (hle : e.points ≤ x.points) :
      Adds b e (.kept x.points) b
  | improved (x : Score) (hx : x ∈ b.entries) (hname : x.name = e.name) (hlt : x.points < e.points) :
      Adds b e (.improved x.points) ⟨placeScore e (b.entries.filter fun y => y.name ≠ e.name)⟩
  | inserted (habsent : ∀ x ∈ b.entries, x.name ≠ e.name)
      (hroom : b.size < maxEntries ∨ ∃ l, b.entries.getLast? = some l ∧ l.points < e.points) :
      Adds b e .inserted ⟨(placeScore e b.entries).take maxEntries⟩
  | overflowed (habsent : ∀ x ∈ b.entries, x.name ≠ e.name) (hfull : b.size = maxEntries)
      (l : Score) (hlast : b.entries.getLast? = some l) (hle : e.points ≤ l.points) :
      Adds b e .overflowed b

/-! ## Ranked lists, continued

The last place of a ranked list is its lowest, and the insertion into a ranked list is the
placement `placeScore` describes. -/

/-- The last score of a ranked list is at most every score of it. -/
theorem Ranked.getLast_le {xs : List Score} (h : Ranked xs) {l : Score}
    (hl : xs.getLast? = some l) {y : Score} (hy : y ∈ xs) : l.points ≤ y.points := by
  obtain ⟨ys, rfl⟩ := List.getLast?_eq_some_iff.1 hl
  rcases List.mem_append.1 hy with hy | hy
  · exact (List.pairwise_append.1 h).2.2 y hy l (List.mem_singleton_self l)
  · rw [List.mem_singleton.1 hy]
    exact Int32.le_refl l.points

/-- Some score of a ranked list is below `e` exactly when its last one is. -/
theorem Ranked.exists_lt_iff {xs : List Score} (h : Ranked xs) {e : Score} :
    (∃ y ∈ xs, y.points < e.points) ↔ ∃ l, xs.getLast? = some l ∧ l.points < e.points := by
  constructor
  · rintro ⟨y, hy, hlt⟩
    obtain ⟨l, hl⟩ : ∃ l, xs.getLast? = some l :=
      Option.isSome_iff_exists.1 (List.getLast?_isSome.2 (List.ne_nil_of_mem hy))
    exact ⟨l, hl, Int32.lt_of_le_of_lt (h.getLast_le hl hy) hlt⟩
  · rintro ⟨l, hl, hlt⟩
    exact ⟨l, List.mem_of_getLast? hl, hlt⟩

/-- On a ranked list the insertion is the placement by points. -/
theorem Ranked.insertByPoints_eq {xs : List Score} (h : Ranked xs) (e : Score) :
    insertByPoints e xs = placeScore e xs := by
  rw [insertByPoints_eq_append, takeWhile_eq_filter_of_ranked h, dropWhile_eq_filter_of_ranked h,
    placeScore]

/-- Inserting a new player into a ranked list with distinct names keeps both properties. -/
theorem Ranked.insert_new {xs : List Score} (h : Ranked xs) (hn : (names xs).Nodup)
    {e : Score} (habsent : ∀ x ∈ xs, x.name ≠ e.name) :
    Ranked (insertByPoints e xs) ∧ (names (insertByPoints e xs)).Nodup := by
  constructor
  · refine pairwise_insertByPoints h ?_ ?_
    · intro x hx
      exact le_of_mem_takeWhile hx
    · intro y hy
      exact Int32.le_of_lt (h.lt_of_mem_dropWhile hy)
  · have hperm : (names (insertByPoints e xs)).Perm (e.name :: names xs) :=
      (insertByPoints_perm e xs).map _
    rw [hperm.nodup_iff, List.nodup_cons]
    refine ⟨fun hmem => ?_, hn⟩
    obtain ⟨x, hx, hname⟩ := mem_names.1 hmem
    exact habsent x hx hname

/-- Removing a player who is on the list shortens it. -/
theorem length_filter_name_ne_lt {xs : List Score} {x : Score} (hx : x ∈ xs) {n : String}
    (hname : x.name = n) : (xs.filter fun y => y.name ≠ n).length < xs.length :=
  List.length_filter_lt_length_iff_exists.2 ⟨x, hx, by simp [hname]⟩

/-! ## What `add` computes on a well-formed board

With distinct names the duplicate collapse is the identity, and with at most 999 scores the cut
only matters where a new player is placed. -/

section Valid

variable {b : Leaderboard} {e : Score}

/-- The list of an improvement, the player's old score removed and the new one inserted, is
ranked, has distinct names and is no longer than the board. -/
theorem Leaderboard.Valid.insert_improved (hb : b.Valid) {x : Score} (hx : x ∈ b.entries)
    (hname : x.name = e.name) :
    Ranked (insertByPoints e (b.entries.filter fun y => y.name ≠ e.name)) ∧
      (names (insertByPoints e (b.entries.filter fun y => y.name ≠ e.name))).Nodup ∧
      (insertByPoints e (b.entries.filter fun y => y.name ≠ e.name)).length ≤
        b.entries.length := by
  have hsub : (b.entries.filter fun y => y.name ≠ e.name).Sublist b.entries := List.filter_sublist
  -- without its old score the player is new to the rest of the board
  obtain ⟨hr, hn⟩ := (hb.ranked.sublist hsub).insert_new (hb.nodup.sublist (names_sublist hsub))
    fun y hy => (mem_filter_name_ne.1 hy).2
  have hshort := length_filter_name_ne_lt hx hname
  refine ⟨hr, hn, ?_⟩
  rw [length_insertByPoints]
  omega

/-- **Adding a player who is on the board** keeps or improves that player's score. -/
theorem Leaderboard.Valid.add_of_mem (hb : b.Valid) {x : Score} (hx : x ∈ b.entries)
    (hname : x.name = e.name) :
    b.add e = if x.points < e.points then
      (.improved x.points, ⟨insertByPoints e (b.entries.filter fun y => y.name ≠ e.name)⟩)
    else (.kept x.points, b) := by
  have hfind : b.entries.find? (fun y => y.name = e.name) = some x := by
    rw [← hname]; exact find?_name_eq_some hb.nodup hx
  -- the improved list is no longer than the board, so the cut keeps it whole
  have hshort := (hb.insert_improved hx hname).2.2
  have hbound : b.entries.length ≤ maxEntries := hb.bounded
  by_cases hlt : x.points < e.points
  · simp only [Leaderboard.add, keepFirst_eq_self hb.nodup, hfind, hlt, if_true]
    rw [List.take_of_length_le (by omega)]
  · simp only [Leaderboard.add, keepFirst_eq_self hb.nodup, hfind, hlt, if_false]
    rw [List.take_of_length_le hbound]

/-- **Adding a new player** inserts the score by its points and cuts the board to its limit;
the answer says whether the place was within the limit. -/
theorem Leaderboard.Valid.add_of_absent (hb : b.Valid) (habsent : ∀ x ∈ b.entries, x.name ≠ e.name) :
    b.add e = (if insertIndex e b.entries < maxEntries then .inserted else .overflowed,
      ⟨(insertByPoints e b.entries).take maxEntries⟩) := by
  simp only [Leaderboard.add, keepFirst_eq_self hb.nodup, find?_name_eq_none habsent]

/-- A new player lands within the limit exactly when the board has room or its last place is
below the new points. -/
theorem Leaderboard.Valid.insertIndex_lt_iff (hb : b.Valid) :
    insertIndex e b.entries < maxEntries ↔
      b.size < maxEntries ∨ ∃ l, b.entries.getLast? = some l ∧ l.points < e.points := by
  have hle := insertIndex_le_length e b.entries
  have hbound : b.entries.length ≤ maxEntries := hb.bounded
  rw [← hb.ranked.exists_lt_iff]
  constructor
  · intro hlt
    by_cases hroom : b.size < maxEntries
    · exact .inl hroom
    · -- a full board: the place is short of the end, so some score is below `e`
      have hne : insertIndex e b.entries ≠ b.entries.length := by
        unfold Leaderboard.size at hroom; omega
      rw [Ne, insertIndex_eq_length_iff] at hne
      obtain ⟨y, hy, hlt'⟩ : ∃ y ∈ b.entries, y.points < e.points := by simpa using hne
      exact .inr ⟨y, hy, hlt'⟩
  · rintro (hroom | ⟨y, hy, hlt⟩)
    · unfold Leaderboard.size at hroom; omega
    · -- a score below `e` stops the walk before the end
      have hne : insertIndex e b.entries ≠ b.entries.length := fun heq =>
        Int32.lt_irrefl (Int32.lt_of_lt_of_le hlt (insertIndex_eq_length_iff.1 heq y hy))
      omega

/-- A new player whose place is not within the limit meets a full board and lands at its end,
so the cut gives the board back. -/
theorem Leaderboard.Valid.overflows (hb : b.Valid) (hin : ¬ insertIndex e b.entries < maxEntries) :
    insertIndex e b.entries = b.entries.length ∧ b.entries.length = maxEntries ∧
      (insertByPoints e b.entries).take maxEntries = b.entries := by
  have hle := insertIndex_le_length e b.entries
  have hbound : b.entries.length ≤ maxEntries := hb.bounded
  have hend : insertIndex e b.entries = b.entries.length := by omega
  have hfull : b.entries.length = maxEntries := by omega
  refine ⟨hend, hfull, ?_⟩
  rw [← hfull, take_insertByPoints_of_end hend]

/-! ## The four cases

`Valid.adds` reads each branch of `add` as one constructor of `Adds`; `Adds.add_eq` computes
`add` from each constructor. Together they say that on a well-formed board `Adds` is the
graph of `add`. -/

/-- **Every answer of `add` on a well-formed board is one of the four cases.** -/
theorem Leaderboard.Valid.adds (hb : b.Valid) (e : Score) : b.Adds e (b.add e).1 (b.add e).2 := by
  by_cases hmem : ∃ x ∈ b.entries, x.name = e.name
  · obtain ⟨x, hx, hname⟩ := hmem
    rw [hb.add_of_mem hx hname]
    by_cases hlt : x.points < e.points
    · rw [if_pos hlt, (hb.ranked.sublist List.filter_sublist).insertByPoints_eq]
      exact .improved x hx hname hlt
    · rw [if_neg hlt]
      exact .kept x hx hname (Int32.not_lt.1 hlt)
  · have habsent : ∀ x ∈ b.entries, x.name ≠ e.name := fun x hx hname => hmem ⟨x, hx, hname⟩
    rw [hb.add_of_absent habsent]
    by_cases hroom : insertIndex e b.entries < maxEntries
    · rw [if_pos hroom, hb.ranked.insertByPoints_eq]
      exact .inserted habsent (hb.insertIndex_lt_iff.1 hroom)
    · rw [if_neg hroom]
      -- the new score lands at the end of a full board: every score is at least as high
      obtain ⟨hend, hfull, htake⟩ := hb.overflows hroom
      obtain ⟨l, hl⟩ : ∃ l, b.entries.getLast? = some l :=
        Option.isSome_iff_exists.1
          (List.getLast?_isSome.2 (List.ne_nil_of_length_pos (by rw [hfull]; decide)))
      rw [htake]
      exact .overflowed habsent hfull l hl (insertIndex_eq_length_iff.1 hend l (List.mem_of_getLast? hl))

/-- **Each of the four cases is what `add` answers.** -/
theorem Leaderboard.Adds.add_eq (hb : b.Valid) {o : AddOutcome} {b' : Leaderboard}
    (h : b.Adds e o b') : b.add e = (o, b') := by
  cases h with
  | kept x hx hname hle =>
    rw [hb.add_of_mem hx hname, if_neg (Int32.not_lt.2 hle)]
  | improved x hx hname hlt =>
    rw [hb.add_of_mem hx hname, if_pos hlt,
      (hb.ranked.sublist List.filter_sublist).insertByPoints_eq]
  | inserted habsent hroom =>
    rw [hb.add_of_absent habsent, if_pos (hb.insertIndex_lt_iff.2 hroom),
      hb.ranked.insertByPoints_eq]
  | overflowed habsent hfull l hl hle =>
    -- every score is at least the last, hence at least `e`: the new score lands at the end
    have hend : insertIndex e b.entries = b.entries.length :=
      insertIndex_eq_length_iff.2 fun y hy => Int32.le_trans hle (hb.ranked.getLast_le hl hy)
    have hfull' : b.entries.length = maxEntries := hfull
    rw [hb.add_of_absent habsent, if_neg (by omega), ← hfull', take_insertByPoints_of_end hend]

/-! ## Well-formedness along a run

The step lemma `Valid.add` and, by induction on the scores added, the run lemma `Valid.addAll`. -/

/-- **The step lemma**: adding a score keeps a board well formed. -/
theorem Leaderboard.Valid.add (hb : b.Valid) (e : Score) : (b.add e).2.Valid := by
  by_cases hmem : ∃ x ∈ b.entries, x.name = e.name
  · obtain ⟨x, hx, hname⟩ := hmem
    rw [hb.add_of_mem hx hname]
    by_cases hlt : x.points < e.points
    · rw [if_pos hlt]
      obtain ⟨hr, hn, hlen⟩ := hb.insert_improved hx hname
      have hbound : b.entries.length ≤ maxEntries := hb.bounded
      refine ⟨hr, hn, ?_⟩
      show (insertByPoints e _).length ≤ maxEntries
      omega
    · rw [if_neg hlt]
      exact hb
  · have habsent : ∀ x ∈ b.entries, x.name ≠ e.name := fun x hx hname => hmem ⟨x, hx, hname⟩
    rw [hb.add_of_absent habsent]
    obtain ⟨hr, hn⟩ := hb.ranked.insert_new hb.nodup habsent
    have htake : ((insertByPoints e b.entries).take maxEntries).Sublist (insertByPoints e b.entries) :=
      List.take_sublist _ _
    exact ⟨hr.sublist htake, hn.sublist (names_sublist htake), List.length_take_le _ _⟩

/-- **The run lemma**: adding any scores one after another keeps a board well formed. -/
theorem Leaderboard.Valid.addAll (hb : b.Valid) (ops : List Score) : (b.addAll ops).Valid := by
  induction ops generalizing b with
  | nil => exact hb
  | cons e ops ih => exact ih (hb.add e)

end Valid

/-- The empty board is well formed. -/
theorem Leaderboard.valid_empty : (Leaderboard.ofList []).Valid :=
  ⟨List.Pairwise.nil, List.nodup_nil, by decide⟩

/-- **Adding a score to a well-formed board** answers `(o, b')` exactly when `(o, b')` is the
one of the four cases of `Adds` that applies, and leaves a well-formed board; so every board
built from the empty one by any adds is well formed. -/
theorem Leaderboard.add_eq_iff_adds {b : Leaderboard} (hb : b.Valid) (e : Score) :
    (∀ o b', b.add e = (o, b') ↔ b.Adds e o b') ∧ (b.add e).2.Valid ∧
      ∀ ops : List Score, ((Leaderboard.ofList []).addAll ops).Valid := by
  refine ⟨fun o b' => ⟨fun h => ?_, fun h => h.add_eq hb⟩, hb.add e,
    fun ops => Leaderboard.valid_empty.addAll ops⟩
  have hadds := hb.adds e
  rw [h] at hadds
  exact hadds

/-- The four cases on a board of two players, with a third arriving between them. -/
theorem Leaderboard.add_eq_iff_adds_between_two :
    (Leaderboard.ofList [⟨"ann", 9, by decide⟩, ⟨"bob", 4, by decide⟩]).Valid ∧
      (∀ o b', (Leaderboard.ofList [⟨"ann", 9, by decide⟩, ⟨"bob", 4, by decide⟩]).add
          ⟨"cy", 5, by decide⟩ = (o, b') ↔
        (Leaderboard.ofList [⟨"ann", 9, by decide⟩, ⟨"bob", 4, by decide⟩]).Adds
          ⟨"cy", 5, by decide⟩ o b') ∧
      ((Leaderboard.ofList [⟨"ann", 9, by decide⟩, ⟨"bob", 4, by decide⟩]).add
          ⟨"cy", 5, by decide⟩).2.Valid ∧
      ∀ ops : List Score, ((Leaderboard.ofList []).addAll ops).Valid :=
  ⟨by decide, Leaderboard.add_eq_iff_adds (by decide) _⟩

end ScoreKeeper
