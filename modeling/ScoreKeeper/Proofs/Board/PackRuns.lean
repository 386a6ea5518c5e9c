import Mathlib
import ScoreKeeper.Board.Pack

/-!
# ScoreKeeper — runs of pushes onto a pack

A pack read from a document is taken as it is, so it may already hold more than 128 lines. The
first push then cuts it back to 128 and reports every line it dropped; each later push drops at
most the one oldest line. Over a whole run the pack holds the newest lines first, then the lines
it started with, cut to 128, and nothing is lost without being counted: the dropped lines and
the lines kept add up to the lines there were.

## The architecture

* **`Pack.pushAll`** — a run of pushes, with what each push answered.
* **`Pack.entries_pushAll`** — after a non-empty run the pack is the pushed lines, newest first,
  then the old ones, cut to 128 (induction on the run, as in a ring buffer).
* **`Pack.evicted_pushAll_add_size`** — the conservation law, from the one-push
  `Pack.evicted_push_add_size`.
* **`Pack.getElem?_evicted_pushAll`** — push `i` of a run answers from the pack the first `i`
  pushes left.
-/

namespace ScoreKeeper

/-- Pushes lines one after another, first to last: what each push answered, and the pack
afterwards. -/
def Pack.pushAll (p : Pack) : List Note → List Nat × Pack
  | [] => ([], p)
  | n :: ns => ((p.push n).1 :: ((p.push n).2.pushAll ns).1, ((p.push n).2.pushAll ns).2)

namespace Pack

variable (p : Pack) (n : Note) (ns : List Note)

@[simp] theorem pushAll_nil : p.pushAll [] = ([], p) := rfl

@[simp] theorem pushAll_cons :
    p.pushAll (n :: ns) =
      ((p.push n).1 :: ((p.push n).2.pushAll ns).1, ((p.push n).2.pushAll ns).2) := rfl

theorem push_fst : (p.push n).1 = p.size + 1 - maxPackEntries := rfl

theorem entries_push : (p.push n).2.entries = (n :: p.entries).take maxPackEntries := rfl

theorem size_push : (p.push n).2.size = min maxPackEntries (p.size + 1) := by
  simp [Pack.size, entries_push]

/-- One push drops exactly the lines past the limit: the lines dropped and the lines kept are
the old lines and the new one. -/
theorem evicted_push_add_size : (p.push n).1 + (p.push n).2.size = p.size + 1 := by
  rw [push_fst, size_push]
  omega

/-- **Nothing is lost uncounted**: over a run, the lines reported dropped and the lines kept are
the lines the pack started with and the lines pushed. -/
theorem evicted_pushAll_add_size :
    (p.pushAll ns).1.sum + (p.pushAll ns).2.size = p.size + ns.length := by
  -- induction on the run; each push is `evicted_push_add_size`
  induction ns generalizing p with
  | nil => simp
  | cons n ns ih =>
    have hstep := evicted_push_add_size p n
    have hrest := ih (p.push n).2
    simp only [pushAll_cons, List.sum_cons, List.length_cons]
    omega

/-- A cut to `m` lines after some lines are put in front of a list cut to `m` is the same as
one cut of the whole. -/
theorem take_append_take {α : Type} (xs ys : List α) (m : Nat) :
    (xs ++ ys.take m).take m = (xs ++ ys).take m := by
  rw [List.take_append, List.take_append, List.take_take, Nat.min_eq_left (Nat.sub_le m _)]

/-- **After a non-empty run the newest line comes first**: the pushed lines, last pushed first,
then the lines the pack started with, all cut to 128. -/
theorem entries_pushAll (hns : ns ≠ []) :
    (p.pushAll ns).2.entries = (ns.reverse ++ p.entries).take maxPackEntries := by
  -- induction on the run; the first push's cut is absorbed by the last one
  induction ns generalizing p with
  | nil => exact absurd rfl hns
  | cons n ns ih =>
    rw [pushAll_cons]
    rcases eq_or_ne ns [] with rfl | hrest
    · rfl
    · rw [ih (p.push n).2 hrest, entries_push, take_append_take, List.reverse_cons,
        List.append_assoc, List.singleton_append]

/-- The `i`-th push of a run answers from the pack left by the first `i` pushes. -/
theorem getElem?_evicted_pushAll {i : Nat} (hi : i < ns.length) :
    (p.pushAll ns).1[i]? = some ((p.pushAll (ns.take i)).2.size + 1 - maxPackEntries) := by
  induction ns generalizing p i with
  | nil => simp at hi
  | cons n ns ih =>
    cases i with
    | zero => simp [push_fst]
    | succ i =>
      have hi' : i < ns.length := by simpa using hi
      simp [ih (p.push n).2 hi']

end Pack

/-- **Pushing onto a pack read from a document.** For any lines `L` the pack starts from (even
more than 128) and any non-empty run `ns` of pushes: the pack holds the first
`min 128 (|ns| + |L|)` lines of `ns` reversed followed by `L`, its latest line is the last one
pushed, each push answers how many lines the pack before it had past 127 (the subtraction
stops at zero), and the answers add up to the lines there were less the lines kept. -/
theorem pushes_keep_newest_first (L ns : List Note) (hns : ns ≠ []) :
    ((Pack.ofList L).pushAll ns).2.entries =
        (ns.reverse ++ L).take (min maxPackEntries (ns.length + L.length)) ∧
      ((Pack.ofList L).pushAll ns).2.latest? = ns.getLast? ∧
      (∀ i < ns.length, ((Pack.ofList L).pushAll ns).1[i]? =
        some (((Pack.ofList L).pushAll (ns.take i)).2.size + 1 - maxPackEntries)) ∧
      ((Pack.ofList L).pushAll ns).1.sum =
        L.length + ns.length - ((Pack.ofList L).pushAll ns).2.size := by
  have hentries := (Pack.ofList L).entries_pushAll ns hns
  have hcut : (ns.reverse ++ L).take (min maxPackEntries (ns.length + L.length)) =
      (ns.reverse ++ L).take maxPackEntries := by
    have hlen : (ns.reverse ++ L).length = ns.length + L.length := by simp
    rw [← hlen, ← List.take_take, List.take_length]
  refine ⟨hentries.trans hcut.symm, ?_,
    fun i hi => (Pack.ofList L).getElem?_evicted_pushAll ns hi, ?_⟩
  · -- the cut keeps the first line, which is the last one pushed
    rw [Pack.latest?, hentries, List.head?_take, if_neg (by decide), List.head?_append,
      List.head?_reverse]
    cases h : ns.getLast? with
    | none => exact absurd (List.getLast?_eq_none_iff.1 h) hns
    | some x => rfl
  · have hsum := (Pack.ofList L).evicted_pushAll_add_size ns
    simp only [Pack.size, Pack.ofList] at hsum ⊢
    omega

/-- Three lines pushed onto a pack read with 130 lines: the first push drops three old lines,
cutting the pack back to 128, and each later push drops one more. -/
theorem pushes_keep_newest_first_oversized :
    let old : List Note := List.replicate 130 ⟨"old", by decide⟩
    let ns : List Note := [⟨"a", by decide⟩, ⟨"b", by decide⟩, ⟨"c", by decide⟩]
    ns ≠ [] ∧ ((Pack.ofList old).pushAll ns).1 = [3, 1, 1] ∧
      (((Pack.ofList old).pushAll ns).2.entries =
          (ns.reverse ++ old).take (min maxPackEntries (ns.length + old.length)) ∧
        ((Pack.ofList old).pushAll ns).2.latest? = ns.getLast? ∧
        (∀ i < ns.length, ((Pack.ofList old).pushAll ns).1[i]? =
          some (((Pack.ofList old).pushAll (ns.take i)).2.size + 1 - maxPackEntries)) ∧
        ((Pack.ofList old).pushAll ns).1.sum =
          old.length + ns.length - ((Pack.ofList old).pushAll ns).2.size) := by
  intro old ns
  have hns : ns ≠ [] := List.cons_ne_nil _ _
  -- the first push cuts the pack to 128 at once; afterwards it stays full
  have hevicted : ((Pack.ofList old).pushAll ns).1 = [3, 1, 1] := by
    simp [old, ns, Pack.ofList, Pack.push, maxPackEntries]
  exact ⟨hns, hevicted, pushes_keep_newest_first old ns hns⟩

end ScoreKeeper
