import Mathlib

/-!
# ScoreKeeper — splitting text at a character

Paths, request targets and query strings are cut with `String.splitOn` at one-character
separators. That function walks byte positions and comes with no lemmas; this module shows that
at a one-character separator it cuts exactly where `List.splitOn` cuts the characters, so that
every later proof reasons about lists.

The walk keeps three positions: the start of the current piece, the current character and the
progress through the separator. With a one-character separator the last is always at its start
when a character is compared, so the walk is the list split with the current piece held
reversed (`List.splitOnPPrepend`), as in the proof of `String.splitToList_of_valid`: one step
lemma for the end of the text, one for the separator and one for any other character, and an
induction on the rest of the text that takes one step a character.
-/

namespace ScoreKeeper

open String

/-! ## The separator's positions -/

theorem singleton_eq_ofList_nil_append (c : Char) :
    String.singleton c = String.ofList ([] ++ [c]) := by
  rw [List.nil_append, String.singleton_eq_ofList]

theorem rawEndPos_singleton (c : Char) : (String.singleton c).rawEndPos = ⟨c.utf8Size⟩ := by
  rw [singleton_eq_ofList_nil_append, rawEndPos_ofList]
  simp

theorem get_singleton_zero (c : Char) : Pos.Raw.get (String.singleton c) 0 = c := by
  rw [singleton_eq_ofList_nil_append]
  exact get_of_valid [] [c]

theorem next_singleton_zero (c : Char) : Pos.Raw.next (String.singleton c) 0 = ⟨c.utf8Size⟩ := by
  rw [singleton_eq_ofList_nil_append]
  simpa using next_of_valid [] c []

/-! ## One step of the walk

The text is `l ++ m ++ r`: `l` is cut into pieces already, `m` is the current piece and the walk
stands at the start of `r`. -/

theorem splitOnAux_end (c : Char) (l m : List Char) (acc : List String) :
    String.splitOnAux (String.ofList (l ++ m)) (String.singleton c) ⟨utf8Len l⟩
        ⟨utf8Len l + utf8Len m⟩ 0 acc = (String.ofList m :: acc).reverse := by
  unfold String.splitOnAux
  rw [if_pos (by simp only [atEnd_iff, rawEndPos_ofList, utf8Len_append, Pos.Raw.mk_le_mk]; omega)]
  have hext := extract_of_valid l m []
  rw [List.append_nil] at hext
  rw [hext]

theorem splitOnAux_of_ne {c d : Char} (hdc : d ≠ c) (l m r : List Char) (acc : List String) :
    String.splitOnAux (String.ofList (l ++ m ++ d :: r)) (String.singleton c) ⟨utf8Len l⟩
        ⟨utf8Len l + utf8Len m⟩ 0 acc =
      String.splitOnAux (String.ofList (l ++ m ++ d :: r)) (String.singleton c) ⟨utf8Len l⟩
        ⟨utf8Len l + utf8Len m + d.utf8Size⟩ 0 acc := by
  have hpos := Char.utf8Size_pos d
  have hget : Pos.Raw.get (String.ofList (l ++ m ++ d :: r)) ⟨utf8Len l + utf8Len m⟩ = d := by
    simpa using get_of_valid (l ++ m) (d :: r)
  have hnext : Pos.Raw.next (String.ofList (l ++ m ++ d :: r)) ⟨utf8Len l + utf8Len m⟩ =
      ⟨utf8Len l + utf8Len m + d.utf8Size⟩ := by
    simpa using next_of_valid (l ++ m) d r
  have hne : (d == c) = false := by simpa using hdc
  conv_lhs => unfold String.splitOnAux
  rw [if_neg (by simp only [atEnd_iff, rawEndPos_ofList, utf8Len_append, utf8Len_cons,
    Pos.Raw.mk_le_mk]; omega), hget, get_singleton_zero]
  simp only [hne, Bool.false_eq_true, if_false, Pos.Raw.unoffsetBy_zero, hnext]

theorem splitOnAux_of_eq (c : Char) (l m r : List Char) (acc : List String) :
    String.splitOnAux (String.ofList (l ++ m ++ c :: r)) (String.singleton c) ⟨utf8Len l⟩
        ⟨utf8Len l + utf8Len m⟩ 0 acc =
      String.splitOnAux (String.ofList (l ++ m ++ c :: r)) (String.singleton c)
        ⟨utf8Len l + utf8Len m + c.utf8Size⟩ ⟨utf8Len l + utf8Len m + c.utf8Size⟩ 0
        (String.ofList m :: acc) := by
  have hpos := Char.utf8Size_pos c
  have hget : Pos.Raw.get (String.ofList (l ++ m ++ c :: r)) ⟨utf8Len l + utf8Len m⟩ = c := by
    simpa using get_of_valid (l ++ m) (c :: r)
  have hnext : Pos.Raw.next (String.ofList (l ++ m ++ c :: r)) ⟨utf8Len l + utf8Len m⟩ =
      ⟨utf8Len l + utf8Len m + c.utf8Size⟩ := by
    simpa using next_of_valid (l ++ m) c r
  have hend : Pos.Raw.atEnd (String.singleton c) ⟨c.utf8Size⟩ = true := by
    simp [rawEndPos_singleton]
  -- the separator ends the piece `m`: the walk steps back over it to cut the piece
  have hback : (⟨utf8Len l + utf8Len m + c.utf8Size⟩ : Pos.Raw).unoffsetBy ⟨c.utf8Size⟩ =
      ⟨utf8Len l + utf8Len m⟩ := by
    simp [Pos.Raw.unoffsetBy]
  conv_lhs => unfold String.splitOnAux
  rw [if_neg (by simp only [atEnd_iff, rawEndPos_ofList, utf8Len_append, utf8Len_cons,
    Pos.Raw.mk_le_mk]; omega), hget, get_singleton_zero]
  simp only [beq_self_eq_true, if_true, hnext, next_singleton_zero, hend, hback]
  rw [extract_of_valid l m (c :: r)]

/-! ## The whole walk -/

/-- **The walk of `splitOn` over the rest `r` of a text**, the current piece `m` read so far,
is the list split of `r` continuing that piece. Induction on `r`, one step lemma a case. -/
theorem splitOnAux_singleton (c : Char) (r : List Char) :
    ∀ (l m : List Char) (acc : List String),
    String.splitOnAux (String.ofList (l ++ m ++ r)) (String.singleton c) ⟨utf8Len l⟩
        ⟨utf8Len l + utf8Len m⟩ 0 acc =
      acc.reverse ++ (List.splitOnPPrepend (· == c) r m.reverse).map String.ofList := by
  induction r with
  | nil =>
    intro l m acc
    rw [List.append_nil, splitOnAux_end]
    simp
  | cons d r ih =>
    intro l m acc
    by_cases hdc : d = c
    · -- the separator: the piece `m` is done and a new one starts after it
      subst hdc
      have hrest := ih (l ++ m ++ [d]) [] (String.ofList m :: acc)
      simp only [List.append_nil, utf8Len_append, utf8Len_cons, utf8Len_nil, Nat.add_zero,
        Nat.zero_add, List.append_assoc, List.singleton_append, List.reverse_nil] at hrest
      rw [splitOnAux_of_eq, List.append_assoc, Nat.add_assoc, hrest,
        List.splitOnPPrepend_cons_pos (by simp)]
      simp
    · -- any other character joins the current piece
      have hne : (d == c) = false := by simpa using hdc
      have hrest := ih l (m ++ [d]) acc
      simp only [utf8Len_append, utf8Len_cons, utf8Len_nil, Nat.zero_add, List.append_assoc,
        List.singleton_append, List.reverse_append, List.reverse_cons, List.reverse_nil,
        List.nil_append] at hrest
      rw [splitOnAux_of_ne hdc, List.append_assoc, Nat.add_assoc, hrest,
        @List.splitOnPPrepend_cons_neg _ (fun x => x == c) d r m.reverse hne]

/-! ## Splitting -/

/-- **Splitting a text at a one-character separator splits its characters.** -/
theorem splitOn_singleton (s : String) (c : Char) :
    s.splitOn (String.singleton c) = (s.toList.splitOn c).map String.ofList := by
  have hne : (String.singleton c == "") = false := by
    rw [beq_eq_false_iff_ne, ne_eq, ← String.utf8ByteSize_eq_zero_iff,
      String.utf8ByteSize_singleton]
    exact Nat.pos_iff_ne_zero.1 (Char.utf8Size_pos c)
  unfold String.splitOn
  rw [hne, if_neg Bool.false_ne_true]
  have hwalk := splitOnAux_singleton c s.toList [] [] []
  simp only [List.nil_append, List.reverse_nil, List.splitOnPPrepend_nil_right, utf8Len_nil,
    String.ofList_toList] at hwalk
  rw [List.splitOn_eq_splitOnP]
  exact hwalk

/-- A text without the separator is one piece. -/
theorem splitOn_singleton_of_not_mem {s : String} {c : Char} (h : c ∉ s.toList) :
    s.splitOn (String.singleton c) = [s] := by
  rw [splitOn_singleton, List.splitOn_eq_singleton h]
  simp

end ScoreKeeper
