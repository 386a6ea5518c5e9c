import Mathlib
import ScoreKeeper.Proofs.Board.Add

/-!
# ScoreKeeper — a board remembers each player's best, in order of arrival

Add scores one after another to an empty board, with at most 999 players in all. Nobody is
ever dropped, so the board ends up with one score for every player who offered one: the best
score that player offered (`IsBest`). Higher points rank first, and among equal points the
player who reached them first ranks first (`Precedes`): a later equal offer is kept out, so a
score only moves when it strictly improves. The answer of each add is fixed by the offers
before it: a first offer is inserted, a higher one improves, any other is kept, and nothing
overflows.

## The architecture

* **`Records hist b`** — the invariant of a run: `b` holds exactly the best scores of the
  players of the offers `hist`, ordered by `Precedes hist`.
* **`Records.add_of_lt`**, **`Records.add_of_le`**, **`Records.add_of_new`** — one lemma per
  way an add can go, assembled into the step lemma **`Records.add`**; **`Records.add_answer`**
  reads the answer of the step off the history.
* **`Records.addAll`** — the run lemma, by induction on the offers.
* **`addAll_bests_in_arrival_order`** — the theorem, with the answer of every offer of the run.
-/

namespace ScoreKeeper

/-- `x` is the best score its player offered in `ops`: it was offered, and no offer of the
same player is higher. -/
def IsBest (ops : List Score) (x : Score) : Prop :=
  x ∈ ops ∧ ∀ y ∈ ops, y.name = x.name → y.points ≤ x.points

/-- The order of a board built from the offers `ops`: more points first, and on equal points
the score offered first in `ops` first. -/
def Precedes (ops : List Score) (x y : Score) : Prop :=
  y.points < x.points ∨ (x.points = y.points ∧ ops.idxOf x < ops.idxOf y)

/-- The number of players who offered a score in `ops`. -/
def playerCount (ops : List Score) : Nat :=
  (names ops).dedup.length

/-! ## Best scores

A player has at most one best score, and appending an offer changes the best score of the
offering player only. -/

section Best

variable {hist : List Score} {e x : Score}

/-- Two best scores of the same player are the same score. -/
theorem IsBest.eq_of_name {y : Score} (hx : IsBest hist x) (hy : IsBest hist y)
    (hname : x.name = y.name) : x = y := by
  have hxy : x.points ≤ y.points := hy.2 x hx.1 hname
  have hyx : y.points ≤ x.points := hx.2 y hy.1 hname.symm
  exact Score.eq_iff.2 ⟨hname, Int32.le_antisymm hxy hyx⟩

/-- Another player's offer leaves a best score best. -/
theorem IsBest.append_of_name_ne (hx : IsBest hist x) (hne : x.name ≠ e.name) :
    IsBest (hist ++ [e]) x := by
  refine ⟨List.mem_append_left _ hx.1, fun y hy hname => ?_⟩
  rcases List.mem_append.1 hy with hy | hy
  · exact hx.2 y hy hname
  · rw [List.mem_singleton.1 hy] at hname
    exact absurd hname.symm hne

/-- An offer of the same player that is not higher leaves the best score best. -/
theorem IsBest.append_of_le (hx : IsBest hist x) (hle : e.points ≤ x.points) :
    IsBest (hist ++ [e]) x := by
  refine ⟨List.mem_append_left _ hx.1, fun y hy hyname => ?_⟩
  rcases List.mem_append.1 hy with hy | hy
  · exact hx.2 y hy hyname
  · rw [List.mem_singleton.1 hy]
    exact hle

/-- An offer above every earlier offer of its player is that player's new best. -/
theorem isBest_append_self (habove : ∀ y ∈ hist, y.name = e.name → y.points < e.points) :
    IsBest (hist ++ [e]) e := by
  refine ⟨List.mem_append_right _ (List.mem_singleton_self e), fun y hy hname => ?_⟩
  rcases List.mem_append.1 hy with hy | hy
  · exact Int32.le_of_lt (habove y hy hname)
  · rw [List.mem_singleton.1 hy]
    exact Int32.le_refl _

/-- The best score of a player is not below any offer of that player, so an offer above the
best one was never made before. -/
theorem IsBest.not_mem_of_lt (hx : IsBest hist x) (hname : x.name = e.name)
    (hlt : x.points < e.points) : e ∉ hist := fun he =>
  Int32.lt_irrefl (Int32.lt_of_lt_of_le hlt (hx.2 e he hname.symm))

end Best

/-! ## The order of arrival

Appending offers keeps the place in `ops` of every score offered before, and a new offer
comes after all of them. -/

section Order

variable {hist : List Score} {e x y : Score}

theorem Precedes.points_le (h : Precedes hist x y) : y.points ≤ x.points := by
  rcases h with hlt | ⟨heq, -⟩
  · exact Int32.le_of_lt hlt
  · rw [heq]
    exact Int32.le_refl _

/-- The order of two scores offered in `hist` survives more offers. -/
theorem Precedes.append {more : List Score} (hx : x ∈ hist) (hy : y ∈ hist)
    (h : Precedes hist x y) : Precedes (hist ++ more) x y := by
  unfold Precedes at h ⊢
  rw [List.idxOf_append_of_mem hx, List.idxOf_append_of_mem hy]
  exact h

/-- A score offered before `e`, with at least `e`'s points, precedes `e`. -/
theorem precedes_newest (hx : x ∈ hist) (he : e ∉ hist) (hle : e.points ≤ x.points) :
    Precedes (hist ++ [e]) x e := by
  rcases Int32.le_iff_lt_or_eq.1 hle with hlt | heq
  · exact .inl hlt
  · -- equal points: `x` sits inside `hist`, `e` right after it
    have hxidx : (hist ++ [e]).idxOf x < hist.length := by
      rw [List.idxOf_append_of_mem hx]
      exact List.idxOf_lt_length_of_mem hx
    have heidx : (hist ++ [e]).idxOf e = hist.length := by
      rw [List.idxOf_append_of_notMem he, List.idxOf_cons_self, Nat.add_zero]
    exact .inr ⟨heq.symm, by omega⟩

end Order

/-! ## Counting players -/

theorem playerCount_le_of_subset {ops ops' : List Score} (h : ∀ x ∈ ops, x ∈ ops') :
    playerCount ops ≤ playerCount ops' := by
  apply List.Nodup.length_le_of_subset (List.nodup_dedup _)
  intro n hn
  obtain ⟨x, hx, rfl⟩ := mem_names.1 (List.mem_dedup.1 hn)
  exact List.mem_dedup.2 (name_mem_names (h x hx))

theorem playerCount_le_append (hist more : List Score) :
    playerCount hist ≤ playerCount (hist ++ more) :=
  playerCount_le_of_subset fun _ hy => List.mem_append_left _ hy

/-- A list of distinct names of players of `ops` is at most as long as `ops` has players. -/
theorem length_le_playerCount {ns : List String} {ops : List Score} (hns : ns.Nodup)
    (hsub : ∀ n ∈ ns, n ∈ names ops) : ns.length ≤ playerCount ops :=
  hns.length_le_of_subset fun n hn => List.mem_dedup.2 (hsub n hn)

/-- Histories with the same players have the same number of players. -/
theorem playerCount_eq_of_players {ops ops' : List Score}
    (h : ∀ n, n ∈ names ops ↔ n ∈ names ops') : playerCount ops = playerCount ops' := by
  have hperm : (names ops).dedup.Perm (names ops').dedup :=
    (List.perm_ext_iff_of_nodup (List.nodup_dedup _) (List.nodup_dedup _)).2 fun n => by
      rw [List.mem_dedup, List.mem_dedup]
      exact h n
  exact hperm.length_eq

/-- An offer by a player who offered before adds no player. -/
theorem playerCount_append_of_mem {hist : List Score} {e : Score} (he : e.name ∈ names hist) :
    playerCount (hist ++ [e]) = playerCount hist := by
  apply playerCount_eq_of_players
  intro n
  rw [mem_names_append_singleton]
  constructor
  · rintro (hn | rfl)
    · exact hn
    · exact he
  · exact .inl

/-- An offer by a new player adds one player. -/
theorem playerCount_append_of_not_mem {hist : List Score} {e : Score} (he : e.name ∉ names hist) :
    playerCount (hist ++ [e]) = playerCount hist + 1 := by
  have hperm : (names (hist ++ [e])).dedup.Perm (e.name :: (names hist).dedup) := by
    refine (List.perm_ext_iff_of_nodup (List.nodup_dedup _) ?_).2 fun n => ?_
    · exact List.nodup_cons.2 ⟨fun hn => he (List.mem_dedup.1 hn), List.nodup_dedup _⟩
    · rw [List.mem_dedup, List.mem_cons, List.mem_dedup, mem_names_append_singleton, or_comm]
  unfold playerCount
  rw [hperm.length_eq, List.length_cons]

/-! ## The invariant of a run -/

/-- The board `b` records the offers `hist`: one score per player of `hist`, that player's
best, in the order `Precedes hist`. -/
structure Records (hist : List Score) (b : Leaderboard) : Prop where
  nodup : (names b.entries).Nodup
  players : ∀ n, n ∈ names b.entries ↔ n ∈ names hist
  best : ∀ x ∈ b.entries, IsBest hist x
  order : b.entries.Pairwise (Precedes hist)

theorem records_empty : Records [] (Leaderboard.ofList []) :=
  ⟨List.nodup_nil, by simp [Leaderboard.ofList], by simp [Leaderboard.ofList], List.Pairwise.nil⟩

section Records

variable {hist : List Score} {b : Leaderboard} {e x : Score}

theorem Records.mem_hist (h : Records hist b) (hx : x ∈ b.entries) : x ∈ hist :=
  (h.best x hx).1

theorem Records.ranked (h : Records hist b) : Ranked b.entries :=
  h.order.imp Precedes.points_le

/-- The board has one score per player of the history. -/
theorem Records.size_eq (h : Records hist b) : b.size = playerCount hist := by
  have hperm : (names b.entries).Perm (names hist).dedup :=
    (List.perm_ext_iff_of_nodup h.nodup (List.nodup_dedup _)).2 fun n => by
      rw [List.mem_dedup]
      exact h.players n
  unfold Leaderboard.size playerCount
  rw [← hperm.length_eq, names, List.length_map]

theorem Records.valid (h : Records hist b) (hcount : playerCount hist ≤ maxEntries) : b.Valid :=
  ⟨h.ranked, h.nodup, by rw [h.size_eq]; exact hcount⟩

/-- A player's best offer is on the board. -/
theorem Records.mem_of_isBest (h : Records hist b) (hx : IsBest hist x) : x ∈ b.entries := by
  obtain ⟨z, hz, hzname⟩ := mem_names.1 ((h.players x.name).2 (name_mem_names hx.1))
  rw [← (h.best z hz).eq_of_name hx hzname]
  exact hz

/-- A player who never offered is not on the board. -/
theorem Records.absent (h : Records hist b) (hnew : ∀ y ∈ hist, y.name ≠ e.name) :
    ∀ x ∈ b.entries, x.name ≠ e.name := fun x hx => hnew x (h.mem_hist hx)

/-- A player is on the board or never offered. -/
theorem Records.mem_or_new (h : Records hist b) (e : Score) :
    (∃ x ∈ b.entries, x.name = e.name) ∨ ∀ y ∈ hist, y.name ≠ e.name := by
  by_cases hnamed : e.name ∈ names hist
  · exact .inl (mem_names.1 ((h.players e.name).2 hnamed))
  · exact .inr fun y hy hyname => hnamed (hyname ▸ name_mem_names hy)

/-- The order of the board survives more offers. -/
theorem Records.order_append (h : Records hist b) (more : List Score) :
    b.entries.Pairwise (Precedes (hist ++ more)) :=
  h.order.imp_of_mem fun hx hy hxy => hxy.append (h.mem_hist hx) (h.mem_hist hy)

/-! ## The step

Three lemmas, one per way an add goes on a board that records its history, then the step
lemma and the answer. -/

/-- **A higher offer of a player on the board** moves that player's score up to the new one. -/
theorem Records.add_of_lt (h : Records hist b) (hcount : playerCount hist ≤ maxEntries)
    (hx : x ∈ b.entries) (hname : x.name = e.name) (hlt : x.points < e.points) :
    Records (hist ++ [e]) (b.add e).2 := by
  have hb := h.valid hcount
  rw [hb.add_of_mem hx hname, if_pos hlt]
  -- the rest of the board: every score but the player's
  have hsub : (b.entries.filter fun y => y.name ≠ e.name).Sublist b.entries := List.filter_sublist
  have hxbest := h.best x hx
  have he : e ∉ hist := hxbest.not_mem_of_lt hname hlt
  refine ⟨(hb.insert_improved hx hname).2.1, fun n => ?_, fun y hy => ?_, ?_⟩
  · -- the player stays on the board, so the players are those of the history
    rw [mem_names_insertByPoints, mem_names_append_singleton, ← h.players n]
    constructor
    · rintro (rfl | hn)
      · exact .inr rfl
      · obtain ⟨y, hy, rfl⟩ := mem_names.1 hn
        exact .inl (name_mem_names (mem_filter_name_ne.1 hy).1)
    · rintro (hn | rfl)
      · by_cases hne : n = e.name
        · exact .inl hne
        · obtain ⟨y, hy, rfl⟩ := mem_names.1 hn
          exact .inr (name_mem_names (mem_filter_name_ne.2 ⟨hy, hne⟩))
      · exact .inl rfl
  · rcases mem_insertByPoints.1 hy with rfl | hy
    · -- every earlier offer of the player is at most the old best, below the new offer
      exact isBest_append_self fun z hz hzname =>
        Int32.lt_of_le_of_lt (hxbest.2 z hz (hzname.trans hname.symm)) hlt
    · have hrest := mem_filter_name_ne.1 hy
      exact (h.best y hrest.1).append_of_name_ne hrest.2
  · refine pairwise_insertByPoints ((h.order_append [e]).sublist hsub) (fun z hz => ?_)
      (fun z hz => .inl ((hb.ranked.sublist hsub).lt_of_mem_dropWhile hz))
    -- a score kept in front of the new one was offered before it
    have hzrest := mem_filter_name_ne.1 (List.takeWhile_subset _ hz)
    exact precedes_newest (h.mem_hist hzrest.1) he (le_of_mem_takeWhile hz)

/-- **An offer of a player on the board that is not higher** changes nothing. -/
theorem Records.add_of_le (h : Records hist b) (hcount : playerCount hist ≤ maxEntries)
    (hx : x ∈ b.entries) (hname : x.name = e.name) (hle : e.points ≤ x.points) :
    Records (hist ++ [e]) (b.add e).2 := by
  have hb := h.valid hcount
  rw [hb.add_of_mem hx hname, if_neg (Int32.not_lt.2 hle)]
  have hnamed : e.name ∈ names hist := by rw [← hname]; exact name_mem_names (h.mem_hist hx)
  refine ⟨h.nodup, fun n => ?_, fun y hy => ?_, h.order_append [e]⟩
  · rw [h.players, mem_names_append_singleton]
    constructor
    · exact .inl
    · rintro (hn | rfl)
      · exact hn
      · exact hnamed
  · by_cases hyname : y.name = e.name
    · -- the player's score on the board is `x`
      have hyx : y = x := eq_of_names_nodup h.nodup hy hx (hyname.trans hname.symm)
      rw [hyx]
      exact (h.best x hx).append_of_le hle
    · exact (h.best y hy).append_of_name_ne hyname

/-- The board of a history is shorter than the number of players once a new one offers. -/
theorem Records.size_lt_of_new (h : Records hist b) (hnew : ∀ y ∈ hist, y.name ≠ e.name) :
    b.size < playerCount (hist ++ [e]) := by
  have habsent : e.name ∉ names b.entries := fun hn => by
    obtain ⟨y, hy, hyname⟩ := mem_names.1 hn
    exact h.absent hnew y hy hyname
  -- the new player and the players on the board are distinct players of the longer history
  have hsub : ∀ n ∈ e.name :: names b.entries, n ∈ names (hist ++ [e]) := by
    intro n hn
    rw [mem_names_append_singleton]
    rcases List.mem_cons.1 hn with rfl | hn
    · exact .inr rfl
    · exact .inl ((h.players n).1 hn)
  have hlen := length_le_playerCount (List.nodup_cons.2 ⟨habsent, h.nodup⟩) hsub
  unfold Leaderboard.size
  simpa [names] using hlen

/-- **A first offer of a player** takes its place by points, and nothing is cut. -/
theorem Records.add_of_new (h : Records hist b) (hcount : playerCount (hist ++ [e]) ≤ maxEntries)
    (hnew : ∀ y ∈ hist, y.name ≠ e.name) : Records (hist ++ [e]) (b.add e).2 := by
  have hb := h.valid (Nat.le_trans (playerCount_le_append hist [e]) hcount)
  have habsent := h.absent hnew
  have hsize := h.size_lt_of_new hnew
  have hlen : b.entries.length + 1 ≤ maxEntries := by unfold Leaderboard.size at hsize; omega
  rw [hb.add_of_absent habsent]
  show Records _ ⟨(insertByPoints e b.entries).take maxEntries⟩
  rw [List.take_of_length_le (by rw [length_insertByPoints]; exact hlen)]
  have he : e ∉ hist := fun he => hnew e he rfl
  refine ⟨(hb.ranked.insert_new hb.nodup habsent).2, fun n => ?_, fun y hy => ?_, ?_⟩
  · rw [mem_names_insertByPoints, mem_names_append_singleton, h.players, or_comm]
  · rcases mem_insertByPoints.1 hy with rfl | hy
    · exact isBest_append_self fun z hz hzname => absurd hzname (hnew z hz)
    · exact (h.best y hy).append_of_name_ne (habsent y hy)
  · refine pairwise_insertByPoints (h.order_append [e]) (fun z hz => ?_)
      (fun z hz => .inl (hb.ranked.lt_of_mem_dropWhile hz))
    exact precedes_newest (h.mem_hist (List.takeWhile_subset _ hz)) he (le_of_mem_takeWhile hz)

/-- **The step lemma**: with at most 999 players, an add keeps a board recording its history. -/
theorem Records.add (h : Records hist b) (hcount : playerCount (hist ++ [e]) ≤ maxEntries) :
    Records (hist ++ [e]) (b.add e).2 := by
  have hcount' := Nat.le_trans (playerCount_le_append hist [e]) hcount
  rcases h.mem_or_new e with ⟨x, hx, hname⟩ | hnew
  · by_cases hlt : x.points < e.points
    · exact h.add_of_lt hcount' hx hname hlt
    · exact h.add_of_le hcount' hx hname (Int32.not_lt.1 hlt)
  · exact h.add_of_new hcount hnew

/-- **The answer of the step**, read off the history: a first offer is inserted, an offer
above the player's best improves it, any other is kept; nothing overflows. -/
theorem Records.add_answer (h : Records hist b) (hcount : playerCount (hist ++ [e]) ≤ maxEntries) :
    ((∀ y ∈ hist, y.name ≠ e.name) → (b.add e).1 = .inserted) ∧
    (∀ x, IsBest hist x → x.name = e.name →
      (b.add e).1 = if x.points < e.points then .improved x.points else .kept x.points) ∧
    (b.add e).1 ≠ .overflowed := by
  have hb := h.valid (Nat.le_trans (playerCount_le_append hist [e]) hcount)
  -- a first offer lands within the limit
  have hnew_answer : (∀ y ∈ hist, y.name ≠ e.name) → (b.add e).1 = .inserted := by
    intro hnew
    have hsize := h.size_lt_of_new hnew
    have hidx := insertIndex_le_length e b.entries
    rw [hb.add_of_absent (h.absent hnew), if_pos (by unfold Leaderboard.size at hsize; omega)]
  -- an offer of a player on the board is compared with that player's score
  have hold_answer : ∀ x, IsBest hist x → x.name = e.name →
      (b.add e).1 = if x.points < e.points then .improved x.points else .kept x.points := by
    intro x hx hname
    rw [hb.add_of_mem (h.mem_of_isBest hx) hname]
    split <;> rfl
  refine ⟨hnew_answer, hold_answer, ?_⟩
  rcases h.mem_or_new e with ⟨x, hx, hname⟩ | hnew
  · rw [hold_answer x (h.best x hx) hname]
    split <;> simp
  · rw [hnew_answer hnew]
    simp

/-- **The run lemma**: adding offers with at most 999 players in all keeps a board recording
its history. -/
theorem Records.addAll (h : Records hist b) (ops : List Score)
    (hcount : playerCount (hist ++ ops) ≤ maxEntries) : Records (hist ++ ops) (b.addAll ops) := by
  induction ops generalizing hist b with
  | nil => simpa using h
  | cons e ops ih =>
    -- the first offer is one step, the others a run from the board it leaves
    have hassoc : hist ++ e :: ops = (hist ++ [e]) ++ ops := by simp
    rw [hassoc] at hcount ⊢
    exact ih (h.add (Nat.le_trans (playerCount_le_append _ ops) hcount)) hcount

/-- **Offers of distinct players are all kept**: a board recording them holds exactly those
offers, in some order. -/
theorem Records.perm_of_names_nodup (h : Records hist b) (hn : (names hist).Nodup) :
    b.entries.Perm hist := by
  have hb : b.entries.Nodup := List.Nodup.of_map Score.name h.nodup
  have hhist : hist.Nodup := List.Nodup.of_map Score.name hn
  refine (List.perm_ext_iff_of_nodup hb hhist).2 fun x => ⟨h.mem_hist, fun hx => ?_⟩
  -- with one offer per player, each offer is its player's best
  refine h.mem_of_isBest ⟨hx, fun y hy hname => ?_⟩
  rw [eq_of_names_nodup hn hy hx hname]
  exact Int32.le_refl _

end Records

/-- **A run of adds on the empty board with at most 999 players** ends with one score per
player, that player's best offer, ranked by points and, on equal points, by the first offer
of that score; each offer's answer is fixed by the offers before it: inserted for a player's
first offer, improved from the best `m` so far for an offer above it, kept at `m` otherwise,
and never overflowed. -/
theorem addAll_bests_in_arrival_order (ops : List Score) (hcount : playerCount ops ≤ maxEntries) :
    (names ((Leaderboard.ofList []).addAll ops).entries).Nodup ∧
    (∀ n, n ∈ names ((Leaderboard.ofList []).addAll ops).entries ↔ n ∈ names ops) ∧
    (∀ x ∈ ((Leaderboard.ofList []).addAll ops).entries, IsBest ops x) ∧
    ((Leaderboard.ofList []).addAll ops).entries.Pairwise (Precedes ops) ∧
    ∀ i (hi : i < ops.length),
      ((∀ y ∈ ops.take i, y.name ≠ ops[i].name) →
        (((Leaderboard.ofList []).addAll (ops.take i)).add ops[i]).1 = .inserted) ∧
      (∀ x, IsBest (ops.take i) x → x.name = ops[i].name →
        (((Leaderboard.ofList []).addAll (ops.take i)).add ops[i]).1 =
          if x.points < ops[i].points then .improved x.points else .kept x.points) ∧
      (((Leaderboard.ofList []).addAll (ops.take i)).add ops[i]).1 ≠ .overflowed := by
  have hrun := records_empty.addAll ops (by simpa using hcount)
  rw [List.nil_append] at hrun
  refine ⟨hrun.nodup, hrun.players, hrun.best, hrun.order, fun i hi => ?_⟩
  -- the offers before offer `i`, then offer `i` itself: a part of `ops`
  have hprefix : playerCount (ops.take i ++ [ops[i]]) ≤ maxEntries := by
    refine Nat.le_trans (playerCount_le_of_subset fun y hy => ?_) hcount
    rcases List.mem_append.1 hy with hy | hy
    · exact List.mem_of_mem_take hy
    · rw [List.mem_singleton.1 hy]
      exact List.getElem_mem hi
  have hbefore := records_empty.addAll (ops.take i)
    (by rw [List.nil_append]; exact Nat.le_trans (playerCount_le_append _ _) hprefix)
  rw [List.nil_append] at hbefore
  exact hbefore.add_answer hprefix

/-- A run of four offers by three players, two of them reaching 5 points in turn. -/
theorem addAll_bests_in_arrival_order_four :
    playerCount [⟨"ann", 5, by decide⟩, ⟨"bob", 5, by decide⟩, ⟨"ann", 3, by decide⟩,
      ⟨"cy", 7, by decide⟩] ≤ maxEntries ∧
    let ops : List Score := [⟨"ann", 5, by decide⟩, ⟨"bob", 5, by decide⟩, ⟨"ann", 3, by decide⟩,
      ⟨"cy", 7, by decide⟩]
    (names ((Leaderboard.ofList []).addAll ops).entries).Nodup ∧
    (∀ n, n ∈ names ((Leaderboard.ofList []).addAll ops).entries ↔ n ∈ names ops) ∧
    (∀ x ∈ ((Leaderboard.ofList []).addAll ops).entries, IsBest ops x) ∧
    ((Leaderboard.ofList []).addAll ops).entries.Pairwise (Precedes ops) ∧
    ∀ i (hi : i < ops.length),
      ((∀ y ∈ ops.take i, y.name ≠ ops[i].name) →
        (((Leaderboard.ofList []).addAll (ops.take i)).add ops[i]).1 = .inserted) ∧
      (∀ x, IsBest (ops.take i) x → x.name = ops[i].name →
        (((Leaderboard.ofList []).addAll (ops.take i)).add ops[i]).1 =
          if x.points < ops[i].points then .improved x.points else .kept x.points) ∧
      (((Leaderboard.ofList []).addAll (ops.take i)).add ops[i]).1 ≠ .overflowed :=
  ⟨by decide, addAll_bests_in_arrival_order _ (by decide)⟩

end ScoreKeeper
