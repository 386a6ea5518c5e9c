import Mathlib
import ScoreKeeper.Store.Backend

/-!
# ScoreKeeper — topic texts and the files they name

A topic is written `highscore/<name>` or `pack/<name>`, and read back also from a bare name,
which is a leaderboard. Reading splits at the first `/` only, so everything after it is checked
as the name; a name holds no `/`, so the three forms never overlap. This module shows that
reading accepts exactly these forms with a name of 1 to 64 bytes of `[A-Za-z0-9_-]`, that every
topic's text reads back to it, and that a topic's name is one plain path component, so that the
disk backend keeps distinct topics in distinct files, each directly inside its kind's directory.

## The architecture

* **`IsTopicChar`**, **`IsTopicName`** — the name rule stated by code points, and
  **`topicFault_eq_none_iff_isTopicName`**: a name passes its check exactly when it follows the rule.
* **`Topic.make?_eq_ok_iff`**, **`Kind.ofPrefix?_eq_some_iff`** — the two lookups reading uses.
* **`Topic.parse_of_slash_not_mem`**, **`Topic.parse_prefixed`** — reading a bare name and a
  prefixed text, and **`Topic.parse_eq_ok_iff`**: what reading accepts, by topic.
* **`IsPlainComponent`**, **`Disk.resolve_plain`** — a name is one path component, and read as a
  path against a directory it names one entry of it.
* **`topic_texts_and_files`** — the whole law.
-/

namespace ScoreKeeper

/-! ## The name rule -/

/-- The characters `[A-Za-z0-9_-]`. -/
def IsTopicChar (c : Char) : Prop :=
  ('A' ≤ c ∧ c ≤ 'Z') ∨ ('a' ≤ c ∧ c ≤ 'z') ∨ ('0' ≤ c ∧ c ≤ '9') ∨ c = '-' ∨ c = '_'

instance : DecidablePred IsTopicChar := fun c =>
  inferInstanceAs (Decidable (('A' ≤ c ∧ c ≤ 'Z') ∨ ('a' ≤ c ∧ c ≤ 'z') ∨ ('0' ≤ c ∧ c ≤ '9') ∨
    c = '-' ∨ c = '_'))

/-- A topic name: 1 to 64 bytes, each character in `[A-Za-z0-9_-]`. -/
structure IsTopicName (n : String) : Prop where
  nonempty : 0 < n.utf8ByteSize
  short : n.utf8ByteSize ≤ 64
  chars : ∀ c ∈ n.toList, IsTopicChar c

theorem isTopicChar_iff (c : Char) : isTopicChar c = true ↔ IsTopicChar c := by
  simp only [isTopicChar, IsTopicChar, Char.isAlphanum, Char.isAlpha, Char.isUpper, Char.isLower,
    Char.isDigit, Bool.or_eq_true, Bool.and_eq_true, decide_eq_true_eq, ge_iff_le, or_assoc]
  rfl

/-- **A name passes its check exactly when it follows the rule.** The check's three faults, in
order, are the rule's three parts failing. -/
theorem topicFault_eq_none_iff_isTopicName (n : String) : topicFault n = none ↔ IsTopicName n := by
  unfold topicFault
  by_cases hempty : n.isEmpty
  · simp only [hempty, if_true, reduceCtorEq, false_iff]
    rintro ⟨hpos, -, -⟩
    rw [String.isEmpty_iff_utf8ByteSize_eq_zero] at hempty
    omega
  by_cases hlong : topicMaxBytes < n.utf8ByteSize
  · simp only [hempty, hlong, if_true, if_false, reduceCtorEq, false_iff, Bool.false_eq_true]
    rintro ⟨-, hshort, -⟩
    exact absurd hlong (by unfold topicMaxBytes; omega)
  simp only [hempty, hlong, if_false, Bool.false_eq_true, Option.map_eq_none_iff,
    List.find?_eq_none, Bool.not_eq_true', Bool.not_eq_false, isTopicChar_iff]
  rw [String.isEmpty_iff_utf8ByteSize_eq_zero] at hempty
  unfold topicMaxBytes at hlong
  exact ⟨fun h => ⟨by omega, by omega, h⟩, fun h => h.chars⟩

theorem Topic.isTopicName (t : Topic) : IsTopicName t.name :=
  (topicFault_eq_none_iff_isTopicName _).1 t.valid

theorem slash_not_mem_of_isTopicName {n : String} (h : IsTopicName n) : '/' ∉ n.toList :=
  fun hmem => absurd (h.chars _ hmem) (by decide)

/-! ## Reading a topic -/

theorem Topic.make?_eq_ok_iff {k : Kind} {n : String} {t : Topic} :
    Topic.make? k n = .ok t ↔ t.kind = k ∧ t.name = n := by
  unfold Topic.make?
  split
  · constructor
    · rintro ⟨⟩
      exact ⟨rfl, rfl⟩
    · rintro ⟨rfl, rfl⟩
      rfl
  · rename_i e hfault
    simp only [reduceCtorEq, false_iff, not_and]
    rintro - rfl
    rw [t.valid] at hfault
    cases hfault

theorem Kind.slash_not_mem_pfx (k : Kind) : '/' ∉ k.pfx.toList := by
  cases k <;> decide

theorem Kind.ofPrefix?_eq_some_iff {q : String} {k : Kind} :
    Kind.ofPrefix? q = some k ↔ k.pfx = q := by
  constructor
  · intro h
    simpa using List.find?_some h
  · rintro rfl
    cases k <;> rfl

theorem intercalate_splitOn_slash (s : String) :
    String.intercalate "/" ((s.toList.splitOn '/').map String.ofList) = s := by
  apply String.toList_inj.1
  simp [String.toList_intercalate, List.map_map, Function.comp_def]

theorem Topic.parse_of_slash_not_mem {s : String} (h : '/' ∉ s.toList) :
    Topic.parse s = Topic.make? .leaderboard s := by
  unfold Topic.parse
  rw [List.splitOn_eq_singleton h]

/-- A text that starts with a kind's prefix and `/` names that kind; only the first `/`
separates, so the rest is checked as the name whatever it holds. -/
theorem Topic.parse_prefixed (k : Kind) (n : String) :
    Topic.parse (k.pfx ++ "/" ++ n) = Topic.make? k n := by
  have hsplit : (k.pfx ++ "/" ++ n).toList.splitOn '/' = k.pfx.toList :: n.toList.splitOn '/' := by
    simp only [String.toList_append, List.append_assoc]
    exact List.splitOn_append_cons_self_of_not_mem k.slash_not_mem_pfx _
  -- the pieces after the prefix are not empty, so reading takes its prefixed branch
  obtain ⟨a, more, hrest⟩ := List.exists_cons_of_ne_nil (List.splitOn_ne_nil '/' n.toList)
  have hkind : Kind.ofPrefix? (String.ofList k.pfx.toList) = some k := by
    rw [String.ofList_toList, Kind.ofPrefix?_eq_some_iff]
  unfold Topic.parse
  rw [hsplit, hrest]
  simp only [hkind]
  rw [← hrest, intercalate_splitOn_slash]

/-- **What reading accepts, by topic**: its bare name when it is a leaderboard, and its text. -/
theorem Topic.parse_eq_ok_iff {s : String} {t : Topic} :
    Topic.parse s = .ok t ↔ (s = t.name ∧ t.kind = .leaderboard) ∨ s = t.display := by
  constructor
  · intro h
    unfold Topic.parse at h
    split at h
    · exact .inl (by rw [Topic.make?_eq_ok_iff] at h; exact ⟨h.2.symm, h.1⟩)
    · exact .inl (by rw [Topic.make?_eq_ok_iff] at h; exact ⟨h.2.symm, h.1⟩)
    · rename_i pfx rest hne hsplit
      simp only at h
      split at h
      · rename_i k hk
        rw [Topic.make?_eq_ok_iff] at h
        obtain ⟨rfl, hname⟩ := h
        rw [Kind.ofPrefix?_eq_some_iff] at hk
        -- the text is its pieces joined again: the prefix, `/`, then the name
        have hs : s.toList = ['/'].intercalate (pfx :: rest) := by
          rw [← hsplit, List.intercalate_splitOn]
        obtain ⟨a, more, rfl⟩ := List.exists_cons_of_ne_nil hne
        refine .inr (String.toList_inj.1 ?_)
        rw [hs, Topic.display, hk, hname]
        simp [String.toList_intercalate, List.intercalate_cons_cons, List.map_map,
          Function.comp_def]
      · cases h
  · rintro (⟨rfl, hk⟩ | rfl)
    · rw [Topic.parse_of_slash_not_mem (slash_not_mem_of_isTopicName t.isTopicName),
        Topic.make?_eq_ok_iff]
      exact ⟨hk, rfl⟩
    · rw [Topic.display, Topic.parse_prefixed, Topic.make?_eq_ok_iff]
      exact ⟨rfl, rfl⟩

/-- Reading gives a topic of kind `k` named `n` exactly when `n` follows the rule and the text is
`n` (a leaderboard), `highscore/n` or `pack/n`. -/
theorem Topic.exists_parse_eq_ok_iff (s : String) (k : Kind) (n : String) :
    (∃ t, Topic.parse s = .ok t ∧ t.kind = k ∧ t.name = n) ↔
      IsTopicName n ∧ ((s = n ∧ k = .leaderboard) ∨ (s = "highscore/" ++ n ∧ k = .leaderboard) ∨
        (s = "pack/" ++ n ∧ k = .pack)) := by
  constructor
  · rintro ⟨t, h, rfl, rfl⟩
    refine ⟨t.isTopicName, ?_⟩
    rcases Topic.parse_eq_ok_iff.1 h with ⟨rfl, hk⟩ | rfl
    · exact .inl ⟨rfl, hk⟩
    · cases ht : t.kind
      · exact .inr (.inl ⟨by rw [Topic.display, ht]; rfl, rfl⟩)
      · exact .inr (.inr ⟨by rw [Topic.display, ht]; rfl, rfl⟩)
  · rintro ⟨hn, hs⟩
    refine ⟨⟨k, n, (topicFault_eq_none_iff_isTopicName n).2 hn⟩, Topic.parse_eq_ok_iff.2 ?_, rfl, rfl⟩
    rcases hs with ⟨rfl, rfl⟩ | ⟨rfl, rfl⟩ | ⟨rfl, rfl⟩
    · exact .inl ⟨rfl, rfl⟩
    · exact .inr rfl
    · exact .inr rfl

/-! ## The files of topics -/

/-- A path component that names one entry of its directory: not empty, not `.` or `..`, and
without a separator of either kind. -/
structure IsPlainComponent (n : String) : Prop where
  ne_empty : n ≠ ""
  ne_dot : n ≠ "."
  ne_dotdot : n ≠ ".."
  no_slash : '/' ∉ n.toList
  no_backslash : '\\' ∉ n.toList

theorem isPlainComponent_of_isTopicName {n : String} (h : IsTopicName n) : IsPlainComponent n where
  ne_empty hn := by
    have := h.nonempty
    rw [hn] at this
    exact absurd this (by decide)
  ne_dot hn := absurd (h.chars '.' (by simp [hn])) (by decide)
  ne_dotdot hn := absurd (h.chars '.' (by simp [hn])) (by decide)
  no_slash := slash_not_mem_of_isTopicName h
  no_backslash hmem := absurd (h.chars _ hmem) (by decide)

/-- A plain component read as a path against a directory names one entry of that directory. -/
theorem Disk.resolve_plain (cwd : Path) {n : String} (h : IsPlainComponent n) :
    Disk.resolve cwd n = cwd ++ [n] := by
  have hstart : n.startsWith "/" = false := by
    rw [String.startsWith_string_eq_false_iff]
    intro hpre
    exact h.no_slash (hpre.subset (by simp))
  unfold Disk.resolve
  simp [List.splitOn_eq_singleton h.no_slash, hstart, h.ne_empty, h.ne_dot, h.ne_dotdot]

theorem Kind.pfx_injective : Function.Injective Kind.pfx := by
  intro a b h
  cases a <;> cases b <;> first | rfl | exact absurd h (by decide)

theorem Backend.topicPath_injective (root : Path) :
    Function.Injective (Backend.topicPath root) := by
  rintro ⟨k, n, hn⟩ ⟨k', n', hn'⟩ h
  simp only [Backend.topicPath, Backend.kindDir, List.append_assoc, List.singleton_append,
    List.append_cancel_left_eq, List.cons.injEq, and_true] at h
  obtain ⟨hk, rfl⟩ := h
  cases Kind.pfx_injective hk
  rfl

/-- **Topic texts and the files they name.** Reading accepts exactly a name of 1 to 64 bytes of
`[A-Za-z0-9_-]`, bare (a leaderboard) or after `highscore/` or `pack/`, and gives that kind and
name; every topic's text reads back to it; a topic's name is one plain path component; so
distinct topics have distinct files, each the name read as a path inside its kind's
directory. -/
theorem topic_texts_and_files :
    (∀ (s : String) (k : Kind) (n : String),
      (∃ t, Topic.parse s = .ok t ∧ t.kind = k ∧ t.name = n) ↔
        IsTopicName n ∧ ((s = n ∧ k = .leaderboard) ∨ (s = "highscore/" ++ n ∧ k = .leaderboard) ∨
          (s = "pack/" ++ n ∧ k = .pack))) ∧
      (∀ t : Topic, Topic.parse t.display = .ok t) ∧
      (∀ t : Topic, IsPlainComponent t.name) ∧
      (∀ root : Path, Function.Injective (Backend.topicPath root)) ∧
      (∀ (root : Path) (t : Topic),
        Disk.resolve (Backend.kindDir root t.kind) t.name = Backend.topicPath root t) :=
  ⟨Topic.exists_parse_eq_ok_iff, fun _ => Topic.parse_eq_ok_iff.2 (.inr rfl),
    fun t => isPlainComponent_of_isTopicName t.isTopicName, Backend.topicPath_injective,
    fun _ t => Disk.resolve_plain _ (isPlainComponent_of_isTopicName t.isTopicName)⟩

end ScoreKeeper
