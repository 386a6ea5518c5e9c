import Mathlib
import ScoreKeeper.Proofs.Board.History

/-!
# ScoreKeeper — a full board keeps the best players, whatever the order of offers

When no two players ever offer the same points, adding offers one after another to an empty
board ends with the best scores of the players whose best scores are highest, as many of them
as the limit of 999 allows, strictly ranked. That board depends only on which offers were
made, not on their order.

The order matters on the way: a full board forgets the players it drops, and a dropped player
who comes back is a newcomer again. It works out because a full board stays full and only ever
drops its lowest score, so every offer of a dropped player is below every score that remains:
coming back lower, the player overflows; coming back higher, the new offer is that player's
best and enters by its points.

## The architecture

* **`KeepsTop hist b`** — the invariant of a run: `b` holds strictly ranked best scores of the
  players of `hist`, `min 999 (playerCount hist)` of them, and every offer of a player off the
  board is below all of them.
* **`KeepsTop.add_of_lt`**, **`KeepsTop.add_of_le`**, **`KeepsTop.add_of_enter`**,
  **`KeepsTop.add_of_overflow`** — one lemma per case of `Adds`, assembled into the step lemma
  **`KeepsTop.add`**. A new player entering a full board is the case that forgets a player.
* **`KeepsTop.addAll`** — the run lemma, by induction on the offers.
* **`KeepsTop.unique`** — two boards that keep the top of the same offers are equal; with
  **`KeepsTop.of_perm`** this gives the independence of the order.
* **`addAll_keeps_top_bests`** — the theorem.
-/

namespace ScoreKeeper

attribute [ext] Leaderboard

/-- No two players offer the same points in `ops`. -/
def DistinctPoints (ops : List Score) : Prop :=
  ∀ x ∈ ops, ∀ y ∈ ops, x.points = y.points → x.name = y.name

theorem DistinctPoints.mono {ops ops' : List Score} (h : DistinctPoints ops')
    (hsub : ∀ x ∈ ops, x ∈ ops') : DistinctPoints ops :=
  fun x hx y hy hxy => h x (hsub x hx) y (hsub y hy) hxy

/-- The board `b` keeps the top of the offers `hist`: strictly ranked best scores, as many as
the limit allows, and every offer of a player who is not on the board below all of them. -/
structure KeepsTop (hist : List Score) (b : Leaderboard) : Prop where
  strict : b.entries.Pairwise fun x y => y.points < x.points
  best : ∀ x ∈ b.entries, IsBest hist x
  size_eq : b.size = min maxEntries (playerCount hist)
  below : ∀ y ∈ hist, (∀ x ∈ b.entries, x.name ≠ y.name) → ∀ x ∈ b.entries, y.points < x.points

theorem keepsTop_empty : KeepsTop [] (Leaderboard.ofList []) :=
  ⟨List.Pairwise.nil, by simp [Leaderboard.ofList],
    by simp [Leaderboard.size, Leaderboard.ofList, playerCount], by simp⟩

section KeepsTop

variable {hist : List Score} {b : Leaderboard} {e x : Score}

theorem KeepsTop.mem_hist (h : KeepsTop hist b) (hx : x ∈ b.entries) : x ∈ hist :=
  (h.best x hx).1

/-- Two scores of one player would both be best, hence equal, against the strict ranking. -/
theorem KeepsTop.nodup (h : KeepsTop hist b) : (names b.entries).Nodup := by
  show List.Pairwise (· ≠ ·) (b.entries.map _)
  rw [List.pairwise_map]
  refine h.strict.imp_of_mem fun hx hy hlt hname => ?_
  have hxy := (h.best _ hx).eq_of_name (h.best _ hy) hname
  rw [hxy] at hlt
  exact Int32.lt_irrefl hlt

theorem KeepsTop.ranked (h : KeepsTop hist b) : Ranked b.entries :=
  h.strict.imp fun hlt => Int32.le_of_lt hlt

theorem KeepsTop.valid (h : KeepsTop hist b) : b.Valid :=
  ⟨h.ranked, h.nodup, by rw [h.size_eq]; exact Nat.min_le_left _ _⟩

/-- A board with room holds every player of its history. -/
theorem KeepsTop.mem_of_room (h : KeepsTop hist b) (hroom : b.size < maxEntries) {y : Score}
    (hy : y ∈ hist) : ∃ x ∈ b.entries, x.name = y.name := by
  by_contra hoff
  -- the players on the board and `y` would be more players than `hist` has
  have habsent : y.name ∉ names b.entries := fun hn => hoff (mem_names.1 hn)
  have hsub : ∀ n ∈ y.name :: names b.entries, n ∈ names hist := by
    intro n hn
    rcases List.mem_cons.1 hn with rfl | hn
    · exact name_mem_names hy
    · obtain ⟨x, hx, rfl⟩ := mem_names.1 hn
      exact name_mem_names (h.mem_hist hx)
  have hlen := length_le_playerCount (List.nodup_cons.2 ⟨habsent, h.nodup⟩) hsub
  have hsize := h.size_eq
  unfold Leaderboard.size at hsize hroom
  simp only [List.length_cons, names, List.length_map] at hlen
  omega

/-- The new offer's points differ from those of any other player's offer. -/
theorem points_ne_of_name_ne (hd : DistinctPoints (hist ++ [e])) {y : Score} (hy : y ∈ hist)
    (hname : y.name ≠ e.name) : y.points ≠ e.points := fun heq =>
  hname (hd y (List.mem_append_left _ hy) e (List.mem_append_right _ (List.mem_singleton_self e)) heq)

/-- An offer whose player is missing from a list that holds `e` is not `e`, so it came before. -/
theorem mem_hist_of_off {xs : List Score} {y : Score} (hy : y ∈ hist ++ [e]) (he : e ∈ xs)
    (hoff : ∀ x ∈ xs, x.name ≠ y.name) : y ∈ hist := by
  rcases List.mem_append.1 hy with hy | hy
  · exact hy
  · exact absurd (congrArg Score.name (List.mem_singleton.1 hy)).symm (hoff e he)

/-- Inserting a score whose points no score of a strictly ranked list has keeps the list
strictly ranked. -/
theorem strict_insertByPoints {xs : List Score}
    (hs : xs.Pairwise fun x y => y.points < x.points) (hne : ∀ z ∈ xs, z.points ≠ e.points) :
    (insertByPoints e xs).Pairwise fun x y => y.points < x.points := by
  have hr : Ranked xs := hs.imp fun hlt => Int32.le_of_lt hlt
  refine pairwise_insertByPoints hs (fun z hz => ?_) (fun z hz => hr.lt_of_mem_dropWhile hz)
  -- a score kept in front of `e` is at least as high, and not as high
  have hle : e.points ≤ z.points := le_of_mem_takeWhile hz
  exact Int32.lt_iff_le_and_ne.2 ⟨hle, fun heq => hne z (List.takeWhile_subset _ hz) heq.symm⟩

/-- A new player's offer that lands within the limit is above every offer of a player off the
board: a board with room has nobody off it, and otherwise the offer beats the last place. -/
theorem KeepsTop.lt_of_enter (h : KeepsTop hist b) (hin : insertIndex e b.entries < maxEntries) :
    ∀ y ∈ hist, (∀ z ∈ b.entries, z.name ≠ y.name) → y.points < e.points := by
  intro y hy hoff
  rcases h.valid.insertIndex_lt_iff.1 hin with hroom | ⟨l, hl, hlt⟩
  · obtain ⟨z, hz, hzy⟩ := h.mem_of_room hroom hy
    exact absurd hzy (hoff z hz)
  · exact Int32.lt_trans (h.below y hy hoff l (List.mem_of_getLast? hl)) hlt

/-! ## The step

One lemma per case of `Adds`, then the step lemma. -/

/-- **A higher offer of a player on the board** replaces that player's score; the players
on the board stay the same. -/
theorem KeepsTop.add_of_lt (h : KeepsTop hist b) (hd : DistinctPoints (hist ++ [e]))
    (hx : x ∈ b.entries) (hname : x.name = e.name) (hlt : x.points < e.points) :
    KeepsTop (hist ++ [e]) (b.add e).2 := by
  have hb := h.valid
  rw [hb.add_of_mem hx hname, if_pos hlt]
  -- the rest of the board: every score but the player's
  have hsub : (b.entries.filter fun y => y.name ≠ e.name).Sublist b.entries := List.filter_sublist
  have hxbest := h.best x hx
  refine ⟨?_, fun y hy => ?_, ?_, ?_⟩
  · refine strict_insertByPoints (h.strict.sublist hsub) fun z hz => ?_
    have hzrest := mem_filter_name_ne.1 hz
    exact points_ne_of_name_ne hd (h.mem_hist hzrest.1) hzrest.2
  · rcases mem_insertByPoints.1 hy with rfl | hy
    · exact isBest_append_self fun z hz hzname =>
        Int32.lt_of_le_of_lt (hxbest.2 z hz (hzname.trans hname.symm)) hlt
    · have hrest := mem_filter_name_ne.1 hy
      exact (h.best y hrest.1).append_of_name_ne hrest.2
  · -- one score left and one came: the size and the number of players stay
    have hcount : playerCount (hist ++ [e]) = playerCount hist :=
      playerCount_append_of_mem (hname ▸ name_mem_names hxbest.1)
    have hlen := length_filter_name_ne_add_one h.nodup hx
    rw [hname] at hlen
    show (insertByPoints e _).length = _
    rw [length_insertByPoints, hlen, hcount]
    exact h.size_eq
  · intro y hy hoff z hz
    -- `y` is not the player, who is on the board with the new score
    have he : e ∈ insertByPoints e (b.entries.filter fun y => y.name ≠ e.name) :=
      mem_insertByPoints.2 (.inl rfl)
    have hyname : y.name ≠ e.name := fun hyname => hoff e he hyname.symm
    have hyhist := mem_hist_of_off hy he hoff
    -- nor was `y`'s player on the old board
    have hoff' : ∀ w ∈ b.entries, w.name ≠ y.name := by
      intro w hw hwy
      have hwe : w.name ≠ e.name := fun hwe => hyname (hwy.symm.trans hwe)
      exact hoff w (mem_insertByPoints.2 (.inr (mem_filter_name_ne.2 ⟨hw, hwe⟩))) hwy
    rcases mem_insertByPoints.1 hz with rfl | hz
    · exact Int32.lt_trans (h.below y hyhist hoff' x hx) hlt
    · exact h.below y hyhist hoff' z (mem_filter_name_ne.1 hz).1

/-- **An offer of a player on the board that is not higher** changes nothing. -/
theorem KeepsTop.add_of_le (h : KeepsTop hist b) (hx : x ∈ b.entries) (hname : x.name = e.name)
    (hle : e.points ≤ x.points) : KeepsTop (hist ++ [e]) (b.add e).2 := by
  have hb := h.valid
  rw [hb.add_of_mem hx hname, if_neg (Int32.not_lt.2 hle)]
  refine ⟨h.strict, fun y hy => ?_, ?_, ?_⟩
  · by_cases hyname : y.name = e.name
    · -- the player's score on the board is `x`
      rw [eq_of_names_nodup h.nodup hy hx (hyname.trans hname.symm)]
      exact (h.best x hx).append_of_le hle
    · exact (h.best y hy).append_of_name_ne hyname
  · rw [playerCount_append_of_mem (hname ▸ name_mem_names (h.mem_hist hx))]
    exact h.size_eq
  · intro y hy hoff
    rcases List.mem_append.1 hy with hy | hy
    · exact h.below y hy hoff
    · rw [List.mem_singleton.1 hy] at hoff
      exact absurd hname (hoff x hx)

/-- **A new player's offer that finds room or beats the last place** enters by its points, and
on a full board the cut drops the lowest score. A player dropped now was below everything
kept, and so is every offer that player made. -/
theorem KeepsTop.add_of_enter (h : KeepsTop hist b) (hd : DistinctPoints (hist ++ [e]))
    (habsent : ∀ x ∈ b.entries, x.name ≠ e.name) (hin : insertIndex e b.entries < maxEntries) :
    KeepsTop (hist ++ [e]) (b.add e).2 := by
  have hb := h.valid
  rw [hb.add_of_absent habsent]
  show KeepsTop _ ⟨(insertByPoints e b.entries).take maxEntries⟩
  have habove := h.lt_of_enter hin
  have hstrict := strict_insertByPoints h.strict fun z hz =>
    points_ne_of_name_ne hd (h.mem_hist hz) (habsent z hz)
  have htake := List.take_sublist maxEntries (insertByPoints e b.entries)
  refine ⟨hstrict.sublist htake, fun y hy => ?_, ?_, ?_⟩
  · rcases mem_insertByPoints.1 (htake.subset hy) with rfl | hy
    · exact isBest_append_self fun z hz hzname =>
        habove z hz fun w hw hwz => habsent w hw (hwz.trans hzname)
    · exact (h.best y hy).append_of_name_ne (habsent y hy)
  · have hsize := h.size_eq
    show ((insertByPoints e b.entries).take maxEntries).length = _
    rw [List.length_take, length_insertByPoints]
    unfold Leaderboard.size at hsize
    by_cases hnamed : e.name ∈ names hist
    · -- a returning player: the board was full, or the player would still be on it
      have hfull : ¬ b.entries.length < maxEntries := fun hroom => by
        obtain ⟨y, hy, hyname⟩ := mem_names.1 hnamed
        obtain ⟨z, hz, hzy⟩ := h.mem_of_room hroom hy
        exact habsent z hz (hzy.trans hyname)
      rw [playerCount_append_of_mem hnamed]
      omega
    · rw [playerCount_append_of_not_mem hnamed]
      omega
  · intro y hy hoff z hz
    have hyhist := mem_hist_of_off hy (mem_take_insertByPoints hin) hoff
    by_cases hon : ∃ w ∈ b.entries, w.name = y.name
    · -- the player's score `w` was dropped by the cut, below everything kept
      obtain ⟨w, hw, hwy⟩ := hon
      have hdropped : w ∉ (insertByPoints e b.entries).take maxEntries := fun hw' => hoff w hw' hwy
      have hwz := rel_of_mem_take hstrict hz (mem_insertByPoints.2 (.inr hw)) hdropped
      exact Int32.lt_of_le_of_lt ((h.best w hw).2 y hyhist hwy.symm) hwz
    · have hoff' : ∀ w ∈ b.entries, w.name ≠ y.name := fun w hw hwy => hon ⟨w, hw, hwy⟩
      rcases mem_insertByPoints.1 (htake.subset hz) with rfl | hz
      · exact habove y hyhist hoff'
      · exact h.below y hyhist hoff' z hz

/-- **A new player's offer at or below the last place of a full board** overflows: the board
stays, and the offer joins the offers below all of it. -/
theorem KeepsTop.add_of_overflow (h : KeepsTop hist b) (hd : DistinctPoints (hist ++ [e]))
    (habsent : ∀ x ∈ b.entries, x.name ≠ e.name) (hin : ¬ insertIndex e b.entries < maxEntries) :
    KeepsTop (hist ++ [e]) (b.add e).2 := by
  have hb := h.valid
  obtain ⟨hend, hfull, htake⟩ := hb.overflows hin
  rw [hb.add_of_absent habsent]
  show KeepsTop _ ⟨(insertByPoints e b.entries).take maxEntries⟩
  rw [htake]
  -- every score is at least the offer and another player's, so strictly above it
  have habove : ∀ z ∈ b.entries, e.points < z.points := fun z hz =>
    Int32.lt_iff_le_and_ne.2 ⟨insertIndex_eq_length_iff.1 hend z hz,
      fun heq => points_ne_of_name_ne hd (h.mem_hist hz) (habsent z hz) heq.symm⟩
  refine ⟨h.strict, fun y hy => (h.best y hy).append_of_name_ne (habsent y hy), ?_, ?_⟩
  · have hsize := h.size_eq
    have hmore := playerCount_le_append hist [e]
    show b.entries.length = _
    unfold Leaderboard.size at hsize
    omega
  · intro y hy hoff
    rcases List.mem_append.1 hy with hy | hy
    · exact h.below y hy hoff
    · rw [List.mem_singleton.1 hy]
      exact habove

/-- **The step lemma**: without ties between players, an add keeps a board keeping the top of
its history. -/
theorem KeepsTop.add (h : KeepsTop hist b) (hd : DistinctPoints (hist ++ [e])) :
    KeepsTop (hist ++ [e]) (b.add e).2 := by
  by_cases hmem : ∃ x ∈ b.entries, x.name = e.name
  · obtain ⟨x, hx, hname⟩ := hmem
    by_cases hlt : x.points < e.points
    · exact h.add_of_lt hd hx hname hlt
    · exact h.add_of_le hx hname (Int32.not_lt.1 hlt)
  · have habsent : ∀ x ∈ b.entries, x.name ≠ e.name := fun x hx hname => hmem ⟨x, hx, hname⟩
    by_cases hin : insertIndex e b.entries < maxEntries
    · exact h.add_of_enter hd habsent hin
    · exact h.add_of_overflow hd habsent hin

/-- **The run lemma**: adding offers without ties between players keeps a board keeping the
top of its history. -/
theorem KeepsTop.addAll (h : KeepsTop hist b) (ops : List Score)
    (hd : DistinctPoints (hist ++ ops)) : KeepsTop (hist ++ ops) (b.addAll ops) := by
  induction ops generalizing hist b with
  | nil => simpa using h
  | cons e ops ih =>
    -- the first offer is one step, the others a run from the board it leaves
    have hassoc : hist ++ e :: ops = (hist ++ [e]) ++ ops := by simp
    rw [hassoc] at hd ⊢
    exact ih (h.add (hd.mono fun y hy => List.mem_append_left _ hy)) hd

/-! ## One board per set of offers

Which board keeps the top of `hist` depends only on which offers `hist` holds, and there is
only one: a score on one board but not on the other would be above all of the other's scores,
which would then all be on the first board too, making it longer. -/

/-- Keeping the top depends only on which offers were made. -/
theorem KeepsTop.of_perm {hist' : List Score} (h : KeepsTop hist b) (hp : hist'.Perm hist) :
    KeepsTop hist' b := by
  have hbest : ∀ x, IsBest hist' x ↔ IsBest hist x := fun x => by
    simp only [IsBest, hp.mem_iff]
  have hcount : playerCount hist' = playerCount hist :=
    playerCount_eq_of_players fun n => (hp.map _).mem_iff
  refine ⟨h.strict, fun x hx => (hbest x).2 (h.best x hx), ?_, fun y hy => h.below y (hp.subset hy)⟩
  rw [hcount]
  exact h.size_eq

/-- Every score of one board keeping the top of `hist` is on any other. -/
theorem KeepsTop.subset {b' : Leaderboard} (h : KeepsTop hist b) (h' : KeepsTop hist b') :
    ∀ x ∈ b.entries, x ∈ b'.entries := by
  -- a score of `b` whose player is on `b'` is that player's best, the one on `b'`
  have hsame : ∀ {b₁ b₂ : Leaderboard}, KeepsTop hist b₁ → KeepsTop hist b₂ →
      ∀ x ∈ b₁.entries, ∀ z ∈ b₂.entries, z.name = x.name → x ∈ b₂.entries := by
    intro b₁ b₂ h₁ h₂ x hx z hz hzx
    rw [← (h₂.best z hz).eq_of_name (h₁.best x hx) hzx]
    exact hz
  intro x hx
  by_contra hout
  have hoff : ∀ z ∈ b'.entries, z.name ≠ x.name := fun z hz hzx => hout (hsame h h' x hx z hz hzx)
  -- then `x` is below every score of `b'`, so all of `b'` is on `b`
  have hback : ∀ z ∈ b'.entries, z ∈ b.entries := by
    intro z hz
    by_contra hzout
    have hzoff : ∀ w ∈ b.entries, w.name ≠ z.name := fun w hw hwz =>
      hzout (hsame h' h z hz w hw hwz)
    exact Int32.lt_irrefl (Int32.lt_trans (h'.below x (h.mem_hist hx) hoff z hz)
      (h.below z (h'.mem_hist hz) hzoff x hx))
  -- and `b` holds `x` besides: longer than `b'`, though both have the same size
  have hnodup' : b'.entries.Nodup := List.Nodup.of_map _ h'.nodup
  have hlen := (List.nodup_cons.2 ⟨hout, hnodup'⟩).length_le_of_subset fun z hz => by
    rcases List.mem_cons.1 hz with rfl | hz
    · exact hx
    · exact hback z hz
  have hsize := h.size_eq
  have hsize' := h'.size_eq
  unfold Leaderboard.size at hsize hsize'
  rw [List.length_cons] at hlen
  omega

/-- **Only one board keeps the top of a history.** -/
theorem KeepsTop.unique {b' : Leaderboard} (h : KeepsTop hist b) (h' : KeepsTop hist b') :
    b = b' := by
  have hperm : b.entries.Perm b'.entries :=
    (List.perm_ext_iff_of_nodup (List.Nodup.of_map _ h.nodup) (List.Nodup.of_map _ h'.nodup)).2
      fun x => ⟨h.subset h' x, h'.subset h x⟩
  ext1
  refine hperm.eq_of_pairwise (fun x y _ _ hxy hyx => ?_) h.strict h'.strict
  exact absurd (Int32.lt_trans hxy hyx) Int32.lt_irrefl

end KeepsTop

/-- **Without ties between players, a run of adds on the empty board keeps the best players**:
the board holds strictly ranked best scores, one for each of `min 999 players` players, every
offer of a player off the board is below all of them, and every order of the same offers ends
with the same board. -/
theorem addAll_keeps_top_bests (ops : List Score)
    (hdistinct : ∀ x ∈ ops, ∀ y ∈ ops, x.points = y.points → x.name = y.name) :
    ((Leaderboard.ofList []).addAll ops).entries.Pairwise (fun x y => y.points < x.points) ∧
    (∀ x ∈ ((Leaderboard.ofList []).addAll ops).entries, IsBest ops x) ∧
    ((Leaderboard.ofList []).addAll ops).size = min maxEntries (playerCount ops) ∧
    (∀ y ∈ ops, (∀ x ∈ ((Leaderboard.ofList []).addAll ops).entries, x.name ≠ y.name) →
      ∀ x ∈ ((Leaderboard.ofList []).addAll ops).entries, y.points < x.points) ∧
    ∀ ops' : List Score, ops'.Perm ops →
      (Leaderboard.ofList []).addAll ops' = (Leaderboard.ofList []).addAll ops := by
  have hrun := keepsTop_empty.addAll ops (by rw [List.nil_append]; exact hdistinct)
  rw [List.nil_append] at hrun
  refine ⟨hrun.strict, hrun.best, hrun.size_eq, hrun.below, fun ops' hp => ?_⟩
  -- the other order keeps the top of its own offers, the same offers
  have hdistinct' : DistinctPoints ops' :=
    (show DistinctPoints ops from hdistinct).mono fun x hx => hp.subset hx
  have hrun' := keepsTop_empty.addAll ops' (by rw [List.nil_append]; exact hdistinct')
  rw [List.nil_append] at hrun'
  exact (hrun'.of_perm hp.symm).unique hrun

/-- Four offers by three players, one of them offering twice. -/
theorem addAll_keeps_top_bests_four :
    (∀ x ∈ [(⟨"ann", 5, by decide⟩ : Score), ⟨"bob", 7, by decide⟩, ⟨"ann", 3, by decide⟩,
        ⟨"cy", 1, by decide⟩],
      ∀ y ∈ [(⟨"ann", 5, by decide⟩ : Score), ⟨"bob", 7, by decide⟩, ⟨"ann", 3, by decide⟩,
        ⟨"cy", 1, by decide⟩], x.points = y.points → x.name = y.name) ∧
    let ops : List Score := [⟨"ann", 5, by decide⟩, ⟨"bob", 7, by decide⟩, ⟨"ann", 3, by decide⟩,
      ⟨"cy", 1, by decide⟩]
    ((Leaderboard.ofList []).addAll ops).entries.Pairwise (fun x y => y.points < x.points) ∧
    (∀ x ∈ ((Leaderboard.ofList []).addAll ops).entries, IsBest ops x) ∧
    ((Leaderboard.ofList []).addAll ops).size = min maxEntries (playerCount ops) ∧
    (∀ y ∈ ops, (∀ x ∈ ((Leaderboard.ofList []).addAll ops).entries, x.name ≠ y.name) →
      ∀ x ∈ ((Leaderboard.ofList []).addAll ops).entries, y.points < x.points) ∧
    ∀ ops' : List Score, ops'.Perm ops →
      (Leaderboard.ofList []).addAll ops' = (Leaderboard.ofList []).addAll ops :=
  ⟨by decide, addAll_keeps_top_bests _ (by decide)⟩

end ScoreKeeper
