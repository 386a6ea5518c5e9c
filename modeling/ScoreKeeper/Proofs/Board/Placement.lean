import Mathlib
import ScoreKeeper.Board.Leaderboard

/-!
# ScoreKeeper — where `Leaderboard.add` puts a score

`Leaderboard.add` is built from three list operations: `keepFirst` drops a player's later
scores, `insertByPoints` puts a score before the first strictly lower one, and `take` cuts
the board to its limit. This module says once what each of them does, so that the board
theorems never unfold them again.

## The architecture

* **`insertByPoints_eq_append`** — the insertion is a split: the scores at least as high as
  the new one that lead the list (`takeWhile`), the new score, then the rest (`dropWhile`).
  Everything else about the insertion is read off this split.
* **`pairwise_insertByPoints`** — any order relation the list had survives the insertion as
  long as the new score relates correctly to the two halves of the split. The board
  invariants (ranked, ranked with arrival order on ties, strictly ranked) are all instances.
* **`takeWhile_eq_filter_of_ranked`** — on a list whose points never rise, the leading part of
  the split is exactly the scores at least as high, and the rest exactly the lower ones.
* **`keepFirst_eq_self`**, **`find?_name_eq_some`** — on a list with distinct names the
  duplicate collapse does nothing and the lookup finds the one score of the player.
-/

namespace ScoreKeeper

attribute [ext] Score

/-- Two scores are the same record exactly when names and points agree. -/
theorem Score.eq_iff {a b : Score} : a = b ↔ a.name = b.name ∧ a.points = b.points :=
  Score.ext_iff

/-- The test that keeps a score in front of `e`: its points are not below `e`'s. -/
theorem not_lt_points_iff (e x : Score) :
    (!decide (x.points < e.points)) = true ↔ e.points ≤ x.points := by
  simp [Int32.not_lt]

/-! ## The insertion as a split

`insertByPoints e xs` walks past the scores that are not strictly below `e` and puts `e` in
front of the first one that is. Induction on `xs`, one case per branch of the definition. -/

/-- **The insertion is a split of the list** at the first score strictly below the new one. -/
theorem insertByPoints_eq_append (e : Score) (xs : List Score) :
    insertByPoints e xs =
      xs.takeWhile (fun x => !decide (x.points < e.points)) ++
        e :: xs.dropWhile (fun x => !decide (x.points < e.points)) := by
  induction xs with
  | nil => rfl
  | cons x xs ih =>
    by_cases hlt : x.points < e.points
    · simp [insertByPoints, hlt]
    · simp [insertByPoints, hlt, ih]

/-- The new score takes the place `insertIndex` names. -/
theorem insertIndex_eq_length_takeWhile (e : Score) (xs : List Score) :
    insertIndex e xs = (xs.takeWhile fun x => !decide (x.points < e.points)).length :=
  rfl

theorem insertIndex_le_length (e : Score) (xs : List Score) : insertIndex e xs ≤ xs.length :=
  (List.takeWhile_prefix _).length_le

/-- Every score the insertion walks past is at least as high as the new one. -/
theorem le_of_mem_takeWhile {e z : Score} {xs : List Score}
    (hz : z ∈ xs.takeWhile fun x => !decide (x.points < e.points)) : e.points ≤ z.points := by
  have hkeep := List.mem_takeWhile_imp hz
  exact (not_lt_points_iff e z).1 hkeep

/-- The insertion puts the new score beside the old ones and loses none. -/
theorem insertByPoints_perm (e : Score) (xs : List Score) : (insertByPoints e xs).Perm (e :: xs) := by
  rw [insertByPoints_eq_append]
  exact List.perm_middle.trans (by rw [List.takeWhile_append_dropWhile])

@[simp]
theorem mem_insertByPoints {e x : Score} {xs : List Score} :
    x ∈ insertByPoints e xs ↔ x = e ∨ x ∈ xs := by
  simpa using (insertByPoints_perm e xs).mem_iff

@[simp]
theorem length_insertByPoints (e : Score) (xs : List Score) :
    (insertByPoints e xs).length = xs.length + 1 := by
  simp [(insertByPoints_perm e xs).length_eq]

/-- The insertion changes nothing among the first `n` scores when the new score lands at or
after place `n`: this is the case of a full board whose last place the new score does not
beat. -/
theorem take_insertByPoints_of_le {e : Score} {xs : List Score} {n : Nat}
    (hn : n ≤ insertIndex e xs) : (insertByPoints e xs).take n = xs.take n := by
  rw [insertIndex_eq_length_takeWhile] at hn
  rw [insertByPoints_eq_append, List.take_append_of_le_length hn]
  conv =>
    rhs
    rw [← @List.takeWhile_append_dropWhile _ (fun x => !decide (x.points < e.points)) xs,
      List.take_append_of_le_length hn]

/-- When the new score lands at the end, cutting the list back to its old length drops it
again. -/
theorem take_insertByPoints_of_end {e : Score} {xs : List Score}
    (hend : insertIndex e xs = xs.length) : (insertByPoints e xs).take xs.length = xs := by
  rw [take_insertByPoints_of_le (Nat.le_of_eq hend.symm), List.take_length]

/-- A new score that lands before place `n` survives the cut to `n`. -/
theorem mem_take_insertByPoints {e : Score} {xs : List Score} {n : Nat}
    (hn : insertIndex e xs < n) : e ∈ (insertByPoints e xs).take n := by
  rw [insertIndex_eq_length_takeWhile] at hn
  rw [insertByPoints_eq_append, List.take_append, List.mem_append]
  right
  obtain ⟨k, hk⟩ : ∃ k, n - (xs.takeWhile fun x => !decide (x.points < e.points)).length = k + 1 :=
    ⟨_, (Nat.succ_pred_eq_of_pos (by omega)).symm⟩
  rw [hk, List.take_succ_cons]
  exact List.mem_cons_self

/-- What a cut drops comes after what it keeps: in a list ordered by `R`, every kept score is
`R`-related to every dropped one. -/
theorem rel_of_mem_take {R : Score → Score → Prop} {xs : List Score} (h : xs.Pairwise R) {n : Nat}
    {x z : Score} (hx : x ∈ xs.take n) (hz : z ∈ xs) (hdropped : z ∉ xs.take n) : R x z := by
  rw [← List.take_append_drop n xs] at h hz
  rcases List.mem_append.1 hz with hz | hz
  · exact absurd hz hdropped
  · exact (List.pairwise_append.1 h).2.2 x hx z hz

/-- The new score lands at the end exactly when no score is strictly below it. -/
theorem insertIndex_eq_length_iff {e : Score} {xs : List Score} :
    insertIndex e xs = xs.length ↔ ∀ x ∈ xs, e.points ≤ x.points := by
  rw [insertIndex_eq_length_takeWhile]
  constructor
  · -- a prefix as long as the list is the list
    intro hlen x hx
    have hself := (List.takeWhile_prefix _).eq_of_length hlen
    exact (not_lt_points_iff e x).1 (List.takeWhile_eq_self_iff.1 hself x hx)
  · intro hall
    rw [List.takeWhile_eq_self_iff.2 fun x hx => (not_lt_points_iff e x).2 (hall x hx)]

/-- **Orders survive the insertion.** Whatever relation `R` the list was pairwise ordered by,
the inserted list is too, provided every score of the leading part relates to `e` and `e`
relates to every score after it. -/
theorem pairwise_insertByPoints {R : Score → Score → Prop} {e : Score} {xs : List Score}
    (hxs : xs.Pairwise R)
    (hbefore : ∀ x ∈ xs.takeWhile (fun x => !decide (x.points < e.points)), R x e)
    (hafter : ∀ y ∈ xs.dropWhile (fun x => !decide (x.points < e.points)), R e y) :
    (insertByPoints e xs).Pairwise R := by
  rw [← @List.takeWhile_append_dropWhile _ (fun x => !decide (x.points < e.points)) xs,
    List.pairwise_append] at hxs
  obtain ⟨hpre, hpost, hcross⟩ := hxs
  rw [insertByPoints_eq_append, List.pairwise_append]
  refine ⟨hpre, List.pairwise_cons.2 ⟨hafter, hpost⟩, ?_⟩
  intro x hx y hy
  rcases List.mem_cons.1 hy with rfl | hy
  · exact hbefore x hx
  · exact hcross x hx y hy

/-! ## Ranked lists

A list is ranked when its points never rise from front to back. On such a list the scores at
least as high as a given one form a prefix, so the split of the insertion is a partition by
points. -/

/-- Points never rise from front to back. -/
def Ranked (xs : List Score) : Prop :=
  xs.Pairwise fun x y => y.points ≤ x.points

theorem Ranked.tail {x : Score} {xs : List Score} (h : Ranked (x :: xs)) : Ranked xs :=
  (List.pairwise_cons.1 h).2

theorem Ranked.le_head {x y : Score} {xs : List Score} (h : Ranked (x :: xs)) (hy : y ∈ xs) :
    y.points ≤ x.points :=
  (List.pairwise_cons.1 h).1 y hy

theorem Ranked.sublist {xs ys : List Score} (h : Ranked ys) (hs : xs.Sublist ys) : Ranked xs :=
  List.Pairwise.sublist hs h

/-- Every score after the insertion point of a ranked list is strictly below the new one. -/
theorem Ranked.lt_of_mem_dropWhile {e y : Score} {xs : List Score} (h : Ranked xs)
    (hy : y ∈ xs.dropWhile fun x => !decide (x.points < e.points)) : y.points < e.points := by
  induction xs with
  | nil => simp at hy
  | cons x xs ih =>
    by_cases hlt : x.points < e.points
    · -- the walk stops at `x`: `y` is `x` or lies below it
      simp only [List.dropWhile_cons, hlt, decide_true, Bool.not_true] at hy
      rcases List.mem_cons.1 hy with rfl | hy
      · exact hlt
      · exact Int32.lt_of_le_of_lt (h.le_head hy) hlt
    · simp only [List.dropWhile_cons, hlt, decide_false, Bool.not_false, ite_true] at hy
      exact ih h.tail hy

/-- **On a ranked list the insertion point is a partition by points**: the leading part is
exactly the scores at least as high as `e`. -/
theorem takeWhile_eq_filter_of_ranked {e : Score} {xs : List Score} (h : Ranked xs) :
    xs.takeWhile (fun x => !decide (x.points < e.points)) =
      xs.filter fun x => e.points ≤ x.points := by
  induction xs with
  | nil => rfl
  | cons x xs ih =>
    by_cases hlt : x.points < e.points
    · -- `x` and everything after it are below `e`, so the filter keeps nothing
      have hnone : xs.filter (fun x => e.points ≤ x.points) = [] := by
        rw [List.filter_eq_nil_iff]
        intro y hy hle
        exact Int32.lt_irrefl
          (Int32.lt_of_le_of_lt (of_decide_eq_true hle) (Int32.lt_of_le_of_lt (h.le_head hy) hlt))
      simp [hlt, Int32.not_le.2 hlt, hnone]
    · have hle : e.points ≤ x.points := Int32.not_lt.1 hlt
      simp [hlt, hle, ih h.tail]

/-- The other half of the partition: the rest is exactly the scores strictly below `e`. -/
theorem dropWhile_eq_filter_of_ranked {e : Score} {xs : List Score} (h : Ranked xs) :
    xs.dropWhile (fun x => !decide (x.points < e.points)) =
      xs.filter fun x => x.points < e.points := by
  induction xs with
  | nil => rfl
  | cons x xs ih =>
    by_cases hlt : x.points < e.points
    · -- the walk stops at `x`, and the filter keeps `x` and all that follows
      have hall : xs.filter (fun x => x.points < e.points) = xs := by
        rw [List.filter_eq_self]
        intro y hy
        simpa using Int32.lt_of_le_of_lt (h.le_head hy) hlt
      simp [hlt, hall]
    · simp [hlt, ih h.tail]

/-! ## Names

The board's identity key is the player's name. On a list whose names are distinct the
duplicate collapse is the identity and the lookup finds the player's one score. -/

/-- The players of a list of scores, in order. -/
def names (xs : List Score) : List String :=
  xs.map (·.name)

@[simp] theorem names_nil : names [] = [] := rfl

@[simp] theorem names_cons (x : Score) (xs : List Score) : names (x :: xs) = x.name :: names xs :=
  rfl

@[simp] theorem names_append (xs ys : List Score) : names (xs ++ ys) = names xs ++ names ys :=
  List.map_append

theorem mem_names {n : String} {xs : List Score} : n ∈ names xs ↔ ∃ x ∈ xs, x.name = n := by
  simp [names]

theorem name_mem_names {x : Score} {xs : List Score} (hx : x ∈ xs) : x.name ∈ names xs :=
  mem_names.2 ⟨x, hx, rfl⟩

theorem mem_names_append_singleton {n : String} {xs : List Score} {e : Score} :
    n ∈ names (xs ++ [e]) ↔ n ∈ names xs ∨ n = e.name := by
  rw [names_append, List.mem_append, names_cons, names_nil, List.mem_singleton]

/-- The players after an insertion are the new one and the old ones. -/
theorem mem_names_insertByPoints {n : String} {e : Score} {xs : List Score} :
    n ∈ names (insertByPoints e xs) ↔ n = e.name ∨ n ∈ names xs := by
  simp only [mem_names, mem_insertByPoints]
  constructor
  · rintro ⟨x, rfl | hx, rfl⟩
    · exact .inl rfl
    · exact .inr ⟨x, hx, rfl⟩
  · rintro (rfl | ⟨x, hx, rfl⟩)
    · exact ⟨e, .inl rfl, rfl⟩
    · exact ⟨x, .inr hx, rfl⟩

theorem names_sublist {xs ys : List Score} (h : xs.Sublist ys) : (names xs).Sublist (names ys) :=
  h.map _

/-- No two scores of a list with distinct names share a name unless they are the same score. -/
theorem eq_of_names_nodup {xs : List Score} (h : (names xs).Nodup) {x y : Score} (hx : x ∈ xs)
    (hy : y ∈ xs) (hxy : x.name = y.name) : x = y :=
  List.inj_on_of_nodup_map h hx hy hxy

/-- What is left of a list once a player's scores are removed. -/
theorem mem_filter_name_ne {n : String} {xs : List Score} {y : Score} :
    y ∈ xs.filter (fun y => y.name ≠ n) ↔ y ∈ xs ∧ y.name ≠ n := by
  simp

/-- Removing a player who is not on the list removes nothing. -/
theorem filter_name_ne_eq_self {n : String} {xs : List Score} (h : n ∉ names xs) :
    xs.filter (fun y => y.name ≠ n) = xs := by
  rw [List.filter_eq_self]
  intro y hy
  have hne : y.name ≠ n := fun hyn => h (mem_names.2 ⟨y, hy, hyn⟩)
  simpa using hne

/-- With distinct names, removing a player's score removes exactly one score. -/
theorem length_filter_name_ne_add_one {xs : List Score} (h : (names xs).Nodup) {x : Score}
    (hx : x ∈ xs) : (xs.filter fun y => y.name ≠ x.name).length + 1 = xs.length := by
  induction xs with
  | nil => simp at hx
  | cons z zs ih =>
    rw [names_cons, List.nodup_cons] at h
    rcases List.mem_cons.1 hx with rfl | hx
    · -- `x` leads the list, and no later score carries its name
      rw [List.filter_cons_of_neg (by simp), filter_name_ne_eq_self h.1, List.length_cons]
    · -- `x` comes later, so the leading score carries another name and stays
      have hne : z.name ≠ x.name := fun hzx => h.1 (mem_names.2 ⟨x, hx, hzx.symm⟩)
      rw [List.filter_cons_of_pos (by simpa using hne), List.length_cons, List.length_cons,
        ih h.2 hx]

/-- With distinct names, collapsing a player's duplicates changes nothing. -/
theorem keepFirst_eq_self {n : String} {xs : List Score} (h : (names xs).Nodup) :
    keepFirst n xs = xs := by
  induction xs with
  | nil => rfl
  | cons x xs ih =>
    rw [names_cons, List.nodup_cons] at h
    by_cases hx : x.name = n
    · -- no later score carries `x`'s name, so the filter keeps them all
      rw [keepFirst, if_pos hx, filter_name_ne_eq_self (hx ▸ h.1)]
    · simp [keepFirst, hx, ih h.2]

/-- With distinct names, the lookup of a player finds that player's score. -/
theorem find?_name_eq_some {xs : List Score} (h : (names xs).Nodup) {x : Score} (hx : x ∈ xs) :
    xs.find? (fun y => y.name = x.name) = some x := by
  obtain ⟨y, hy⟩ : ∃ y, xs.find? (fun y => y.name = x.name) = some y := by
    rw [← Option.isSome_iff_exists, List.find?_isSome]
    exact ⟨x, hx, by simp⟩
  have hyx : y.name = x.name := by simpa using List.find?_some hy
  rw [hy, eq_of_names_nodup h (List.mem_of_find?_eq_some hy) hx hyx]

/-- Without the player on the list, the lookup finds nothing. -/
theorem find?_name_eq_none {xs : List Score} {n : String} (h : ∀ x ∈ xs, x.name ≠ n) :
    xs.find? (fun y => y.name = n) = none := by
  rw [List.find?_eq_none]
  simpa using h

end ScoreKeeper
