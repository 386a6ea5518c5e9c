import Mathlib
import ScoreKeeper.Proofs.Board.Add

/-!
# ScoreKeeper — adding to a board read from a document

A board read from a document is taken as it is: unsorted, with players listed more than once
and past its limit. An add still touches only the player it adds. It keeps that player's first
score and drops the others, leaves every other score in its place with its repeats, and the
cut to 999 only ever drops scores from the end. The player ends with the higher of the first
score held and the new one, if the cut leaves them on the board at all.

What the answer promises is another matter on an oversized board. A new player is only
reported `inserted` when the place found is within the limit, but an improved player's place
is not checked: on a board of more than 999 scores the improved score can land past the limit
and be cut, while the answer still says it was accepted. On a board within the limit an
accepted score is always on the board afterwards, and an overflowed player never is.

## The architecture

* **`keepFirst_filter_ne`**, **`keepFirst_filter_eq`**, **`find?_keepFirst`** — the duplicate
  collapse on any list: the other players untouched, one score left for the player, the first.
* **`Leaderboard.add_of_find?_lt`**, **`add_of_find?_le`**, **`add_of_find?_none`** — what `add`
  computes on any board, one lemma per branch, the collapse already discharged.
* **`Leaderboard.add_entries_cut`** — in every branch the board afterwards is a list cut to 999
  that holds the other players' scores exactly and one score for the player. The frame theorem
  **`Leaderboard.add_touches_only_its_player`** is read off the cut.
* **`Leaderboard.add_answer_within_limit`** — what the answer promises within the limit, and
  **`Leaderboard.improved_score_cut_past_limit`**, a board past it where the promise fails.
-/

namespace ScoreKeeper

/-! ## The duplicate collapse on any list

Induction on the list, following `keepFirst`: the first score of the player ends the walk and
filters the player out of the rest. -/

section KeepFirst

variable (n : String)

/-- The collapse leaves the other players' scores as they were, with their repeats. -/
theorem keepFirst_filter_ne (xs : List Score) :
    (keepFirst n xs).filter (fun x => x.name ≠ n) = xs.filter (fun x => x.name ≠ n) := by
  induction xs with
  | nil => rfl
  | cons x xs ih =>
    by_cases hx : x.name = n
    · simp [keepFirst, hx, List.filter_filter]
    · have hkeep : decide (x.name ≠ n) = true := by simpa using hx
      simp only [keepFirst, hx, if_false, List.filter_cons, hkeep, if_true, ih]

/-- The collapse leaves one score of the player: the first one. -/
theorem keepFirst_filter_eq (xs : List Score) :
    (keepFirst n xs).filter (fun x => x.name = n) = (xs.find? fun x => x.name = n).toList := by
  induction xs with
  | nil => rfl
  | cons x xs ih =>
    by_cases hx : x.name = n
    · -- the rest is filtered free of the player
      simp [keepFirst, hx, List.filter_filter]
    · simp [keepFirst, hx, ih]

theorem find?_keepFirst (xs : List Score) :
    (keepFirst n xs).find? (fun x => x.name = n) = xs.find? fun x => x.name = n := by
  rw [← List.head?_filter, keepFirst_filter_eq]
  cases xs.find? fun x => x.name = n <;> rfl

theorem name_ne_of_find?_eq_none {xs : List Score} (h : (xs.find? fun x => x.name = n) = none) :
    ∀ x ∈ xs, x.name ≠ n := by
  simpa [List.find?_eq_none] using h

/-- Without the player on the list the collapse does nothing. -/
theorem keepFirst_of_absent {xs : List Score} (habsent : ∀ x ∈ xs, x.name ≠ n) :
    keepFirst n xs = xs := by
  induction xs with
  | nil => rfl
  | cons x xs ih =>
    have hx : x.name ≠ n := habsent x List.mem_cons_self
    simp [keepFirst, hx, ih fun y hy => habsent y (List.mem_cons_of_mem x hy)]

end KeepFirst

/-! ## The insertion seen through a filter -/

/-- A filter that drops the inserted score sees the list as it was. -/
theorem filter_insertByPoints_of_neg {p : Score → Bool} {e : Score} (he : p e = false)
    (ys : List Score) : (insertByPoints e ys).filter p = ys.filter p := by
  rw [insertByPoints_eq_append, List.filter_append, List.filter_cons_of_neg (by simp [he]),
    ← List.filter_append, List.takeWhile_append_dropWhile]

/-- A filter that keeps the inserted score and nothing of the list sees only that score. -/
theorem filter_insertByPoints_of_nil {p : Score → Bool} {e : Score} (he : p e = true)
    {ys : List Score} (hys : ys.filter p = []) : (insertByPoints e ys).filter p = [e] := by
  have hperm := (insertByPoints_perm e ys).filter p
  rw [List.filter_cons_of_pos he, hys] at hperm
  exact List.perm_singleton.1 hperm

/-! ## What `add` computes on any board -/

section Add

variable (b : Leaderboard) (e : Score)

@[simp] theorem Leaderboard.entries_ofList (L : List Score) : (Leaderboard.ofList L).entries = L :=
  rfl

theorem max_points_of_lt {p q : Int32} (h : p < q) : max p q = q :=
  if_pos (Int32.le_of_lt h)

theorem max_points_of_le {p q : Int32} (h : q ≤ p) : max p q = p := by
  by_cases hpq : p ≤ q
  · exact (if_pos hpq).trans (Int32.le_antisymm h hpq)
  · exact if_neg hpq

/-- **An improvement on any board**: the player's scores leave, the new one is inserted by its
points, and the board is cut to its limit. -/
theorem Leaderboard.add_of_find?_lt {old : Score}
    (hfind : (b.entries.find? fun x => x.name = e.name) = some old) (hlt : old.points < e.points) :
    b.add e = (.improved old.points,
      ⟨(insertByPoints e (b.entries.filter fun x => x.name ≠ e.name)).take maxEntries⟩) := by
  have hfind' := (find?_keepFirst e.name b.entries).trans hfind
  simp only [Leaderboard.add, hfind', hlt, if_true, keepFirst_filter_ne]

/-- **A score that does not beat the player's first one** changes nothing but the collapse and
the cut. -/
theorem Leaderboard.add_of_find?_le {old : Score}
    (hfind : (b.entries.find? fun x => x.name = e.name) = some old)
    (hle : e.points ≤ old.points) :
    b.add e = (.kept old.points, ⟨(keepFirst e.name b.entries).take maxEntries⟩) := by
  have hfind' := (find?_keepFirst e.name b.entries).trans hfind
  simp only [Leaderboard.add, hfind', Int32.not_lt.2 hle, if_false]

/-- **A new player on any board** is inserted by points; the answer says whether the place was
within the limit. -/
theorem Leaderboard.add_of_find?_none (hfind : (b.entries.find? fun x => x.name = e.name) = none) :
    b.add e = (if insertIndex e b.entries < maxEntries then .inserted else .overflowed,
      ⟨(insertByPoints e b.entries).take maxEntries⟩) := by
  simp only [Leaderboard.add, keepFirst_of_absent e.name (name_ne_of_find?_eq_none e.name hfind),
    hfind]

/-- **Every add is a cut of a list that touches only the player.** Before the cut to 999 the
board holds the other players' scores exactly as they were, and one score of the player: the
higher of the first score held (the new one, when none is held) and the new one. -/
theorem Leaderboard.add_entries_cut :
    ∃ l : List Score, (b.add e).2.entries = l.take maxEntries ∧
      l.filter (fun x => x.name ≠ e.name) = b.entries.filter (fun x => x.name ≠ e.name) ∧
      ∃ s : Score, l.filter (fun x => x.name = e.name) = [s] ∧
        s.points = max (((b.entries.find? fun x => x.name = e.name).map (·.points)).getD e.points)
          e.points := by
  have hself : (fun x : Score => decide (x.name = e.name)) e = true := by simp
  have hother : (fun x : Score => decide (x.name ≠ e.name)) e = false := by simp
  cases hfind : b.entries.find? fun x => x.name = e.name with
  | none =>
    -- a new player: the list is the board with the score inserted
    have hnone : b.entries.filter (fun x => x.name = e.name) = [] :=
      List.filter_eq_nil_iff.2 fun x hx => by simpa using name_ne_of_find?_eq_none e.name hfind x hx
    refine ⟨insertByPoints e b.entries, by rw [b.add_of_find?_none e hfind],
      filter_insertByPoints_of_neg hother _, e, filter_insertByPoints_of_nil hself hnone, ?_⟩
    exact (max_points_of_le (Int32.le_refl _)).symm
  | some old =>
    by_cases hlt : old.points < e.points
    · -- an improvement: the old scores leave and the new one is inserted
      have hnone : (b.entries.filter fun x => x.name ≠ e.name).filter
          (fun x => x.name = e.name) = [] := by
        simp [List.filter_filter]
      refine ⟨insertByPoints e (b.entries.filter fun x => x.name ≠ e.name),
        by rw [b.add_of_find?_lt e hfind hlt], ?_, e, filter_insertByPoints_of_nil hself hnone,
        (max_points_of_lt hlt).symm⟩
      rw [filter_insertByPoints_of_neg hother, List.filter_filter]
      simp
    · -- the first score stands
      have hle := Int32.not_lt.1 hlt
      refine ⟨keepFirst e.name b.entries, by rw [b.add_of_find?_le e hfind hle],
        keepFirst_filter_ne e.name b.entries, old, ?_, (max_points_of_le hle).symm⟩
      rw [keepFirst_filter_eq, hfind]
      rfl

end Add

/-- **Adding to a board read from a document.** Whatever list `L` the board was read from
(unsorted, with repeats, of any length), after adding `e`: at most one score of `e`'s player
remains; the other scores are a prefix of `L`'s other scores, in order and with their repeats,
and all of them when the board is short of 999; the board holds at most 999 scores; and the
player's score, if one remains, is the higher of the first score `L` held for them (or `e`'s,
when none) and `e`'s. -/
theorem Leaderboard.add_touches_only_its_player (L : List Score) (e : Score) :
    (((Leaderboard.ofList L).add e).2.entries.filter fun x => x.name = e.name).length ≤ 1 ∧
      (((Leaderboard.ofList L).add e).2.entries.filter fun x => x.name ≠ e.name) <+:
        L.filter (fun x => x.name ≠ e.name) ∧
      (((Leaderboard.ofList L).add e).2.size < maxEntries →
        (((Leaderboard.ofList L).add e).2.entries.filter fun x => x.name ≠ e.name) =
          L.filter (fun x => x.name ≠ e.name)) ∧
      ((Leaderboard.ofList L).add e).2.size ≤ maxEntries ∧
      ∀ x ∈ ((Leaderboard.ofList L).add e).2.entries, x.name = e.name →
        x.points = max (((L.find? fun y => y.name = e.name).map (·.points)).getD e.points)
          e.points := by
  obtain ⟨l, hcut, hothers, s, hplayer, hpoints⟩ := (Leaderboard.ofList L).add_entries_cut e
  have hpre : (l.take maxEntries) <+: l := List.take_prefix _ _
  unfold Leaderboard.size
  rw [hcut]
  refine ⟨?_, hothers ▸ hpre.filter _, fun hshort => ?_, List.length_take_le _ _,
    fun x hx hname => ?_⟩
  · -- the cut keeps at most the one score of the player the list held
    have hle := ((hpre.filter fun x => decide (x.name = e.name)).sublist).length_le
    rw [hplayer] at hle
    exact hle
  · -- short of the limit the cut took nothing
    have hwhole : l.take maxEntries = l := List.take_of_length_le (by
      rw [List.length_take] at hshort
      omega)
    rw [hwhole]
    exact hothers
  · have hs : x ∈ l.filter fun x => x.name = e.name :=
      List.mem_filter.2 ⟨List.mem_of_mem_take hx, by simpa using hname⟩
    rw [hplayer, List.mem_singleton] at hs
    rw [hs]
    exact hpoints

/-- A board read with a player listed twice: the player's later score goes, the other player
stays, and the board is short of its limit. -/
theorem Leaderboard.add_touches_only_its_player_on_repeats :
    let L : List Score :=
      [⟨"ann", 9, by decide⟩, ⟨"bob", 4, by decide⟩, ⟨"ann", 3, by decide⟩]
    let e : Score := ⟨"ann", 5, by decide⟩
    ((Leaderboard.ofList L).add e).2.size < maxEntries ∧
      (∃ x ∈ ((Leaderboard.ofList L).add e).2.entries, x.name = e.name) ∧
      (((Leaderboard.ofList L).add e).2.entries.filter fun x => x.name = e.name).length ≤ 1 ∧
      (((Leaderboard.ofList L).add e).2.entries.filter fun x => x.name ≠ e.name) <+:
        L.filter (fun x => x.name ≠ e.name) ∧
      (((Leaderboard.ofList L).add e).2.size < maxEntries →
        (((Leaderboard.ofList L).add e).2.entries.filter fun x => x.name ≠ e.name) =
          L.filter (fun x => x.name ≠ e.name)) ∧
      ((Leaderboard.ofList L).add e).2.size ≤ maxEntries ∧
      ∀ x ∈ ((Leaderboard.ofList L).add e).2.entries, x.name = e.name →
        x.points = max (((L.find? fun y => y.name = e.name).map (·.points)).getD e.points)
          e.points :=
  ⟨by decide, by decide, Leaderboard.add_touches_only_its_player _ _⟩

/-! ## What the answer promises

A new player's place is checked against the limit before the answer is given; an improved
player's place is not. Within the limit the improved score cannot land past it, since the
player's old score made room. -/

/-- **What an add reports, on a board within its limit.** An accepted score (`inserted` or
`improved`) is on the board afterwards; and on any board, an `overflowed` player has no score
on it. -/
theorem Leaderboard.add_answer_within_limit (L : List Score) (e : Score) :
    (L.length ≤ maxEntries → ((Leaderboard.ofList L).add e).1.accepted = true →
      e ∈ ((Leaderboard.ofList L).add e).2.entries) ∧
    (((Leaderboard.ofList L).add e).1 = .overflowed →
      ∀ x ∈ ((Leaderboard.ofList L).add e).2.entries, x.name ≠ e.name) := by
  cases hfind : L.find? fun x => x.name = e.name with
  | none =>
    have habsent := name_ne_of_find?_eq_none e.name hfind
    rw [(Leaderboard.ofList L).add_of_find?_none e hfind, Leaderboard.entries_ofList]
    by_cases hroom : insertIndex e L < maxEntries
    · rw [if_pos hroom]
      exact ⟨fun _ _ => mem_take_insertByPoints hroom, fun h => by simp at h⟩
    · -- the place is past the limit, so the cut gives back the board's first scores
      rw [if_neg hroom, take_insertByPoints_of_le (by omega)]
      exact ⟨fun _ h => by simp [AddOutcome.accepted] at h,
        fun _ x hx => habsent x (List.mem_of_mem_take hx)⟩
  | some old =>
    have hold : old ∈ L ∧ old.name = e.name :=
      ⟨List.mem_of_find?_eq_some hfind, by simpa using List.find?_some hfind⟩
    by_cases hlt : old.points < e.points
    · rw [(Leaderboard.ofList L).add_of_find?_lt e hfind hlt, Leaderboard.entries_ofList]
      refine ⟨fun hL _ => mem_take_insertByPoints ?_, fun h => by simp at h⟩
      -- without the old score the rest is shorter than the limit
      have hshort := length_filter_name_ne_lt hold.1 hold.2
      have hle := insertIndex_le_length e (L.filter fun x => x.name ≠ e.name)
      exact Nat.lt_of_le_of_lt hle (Nat.lt_of_lt_of_le hshort hL)
    · rw [(Leaderboard.ofList L).add_of_find?_le e hfind (Int32.not_lt.1 hlt)]
      exact ⟨fun _ h => by simp [AddOutcome.accepted] at h, fun h => by simp at h⟩

/-- A player improving on a board of two within its limit. -/
theorem Leaderboard.add_answer_within_limit_improved :
    let L : List Score := [⟨"ann", 9, by decide⟩, ⟨"bob", 4, by decide⟩]
    let e : Score := ⟨"bob", 7, by decide⟩
    L.length ≤ maxEntries ∧ ((Leaderboard.ofList L).add e).1.accepted = true ∧
      (L.length ≤ maxEntries → ((Leaderboard.ofList L).add e).1.accepted = true →
        e ∈ ((Leaderboard.ofList L).add e).2.entries) ∧
      (((Leaderboard.ofList L).add e).1 = .overflowed →
        ∀ x ∈ ((Leaderboard.ofList L).add e).2.entries, x.name ≠ e.name) :=
  ⟨by decide, by decide, Leaderboard.add_answer_within_limit _ _⟩

/-- A board holding one score of a player after the limit's worth of higher scores, all of
other players: improving that player puts the new score after them all, past the limit, and
the cut drops it, though the answer is `improved`. -/
theorem Leaderboard.add_improved_past_limit {ys : List Score} {old e : Score}
    (hlong : maxEntries ≤ ys.length)
    (hhigh : ∀ y ∈ ys, y.name ≠ e.name ∧ e.points ≤ y.points)
    (hname : old.name = e.name) (hlt : old.points < e.points) :
    (Leaderboard.ofList (ys ++ [old])).add e =
      (.improved old.points, ⟨ys.take maxEntries⟩) := by
  have hothers : ∀ y ∈ ys, y.name ≠ e.name := fun y hy => (hhigh y hy).1
  have hfind : ((ys ++ [old]).find? fun x => x.name = e.name) = some old := by
    rw [List.find?_append, find?_name_eq_none hothers]
    simp [hname]
  have hrest : (ys ++ [old]).filter (fun x => x.name ≠ e.name) = ys := by
    rw [List.filter_append, filter_name_ne_eq_self fun h => ?_]
    · simp [hname]
    · obtain ⟨y, hy, hyn⟩ := mem_names.1 h
      exact hothers y hy hyn
  -- every score is at least as high, so the new one lands at the end
  have hend : insertIndex e ys = ys.length := insertIndex_eq_length_iff.2 fun y hy => (hhigh y hy).2
  rw [(Leaderboard.ofList (ys ++ [old])).add_of_find?_lt e hfind hlt]
  simp only [Leaderboard.ofList, hrest, take_insertByPoints_of_le (hend ▸ hlong)]

/-- **An accepted score cut from an oversized board.** On a board read with 999 scores of 100
ahead of a player's 1, that player's 2 is reported `improved`, yet the board afterwards does
not hold it. -/
theorem Leaderboard.improved_score_cut_past_limit :
    ((Leaderboard.ofList
        (List.replicate 999 ⟨"a", 100, by decide⟩ ++ [⟨"n", 1, by decide⟩])).add
          ⟨"n", 2, by decide⟩).1.accepted = true ∧
      (⟨"n", 2, by decide⟩ : Score) ∉ ((Leaderboard.ofList
        (List.replicate 999 ⟨"a", 100, by decide⟩ ++ [⟨"n", 1, by decide⟩])).add
          ⟨"n", 2, by decide⟩).2.entries := by
  rw [@Leaderboard.add_improved_past_limit (List.replicate 999 ⟨"a", 100, by decide⟩)
    ⟨"n", 1, by decide⟩ ⟨"n", 2, by decide⟩ (by rw [List.length_replicate]; decide)
    (fun y hy => by rw [List.eq_of_mem_replicate hy]; decide) rfl (by decide)]
  refine ⟨rfl, ?_⟩
  simp only [List.take_replicate, List.mem_replicate]
  decide

end ScoreKeeper
