import Mathlib
import ScoreKeeper.Proofs.Store.Lock

/-!
# ScoreKeeper — the three ways an append ends

An append to a store over either backend ends in one of three ways: the line is refused by the
codec and the store is untouched; the storage fails, reading the stored text or writing the new
one, and no stored byte changes (preparing a topic on disk may have created its directory, which
holds no bytes); or the merged document is written. The key never changes, and a read fails only
for the storage, never as a refusal.

## The architecture

* **`Disk.node?_put_of_ne`**, **`Disk.createDirAll_files`** — putting a path leaves the others
  alone, and creating directories only fills paths that held nothing, so every file keeps its
  bytes.
* **`Backend.SameStored`** — two backends that store the same bytes: per topic in memory, per
  file on disk; **`Backend.sameStored_prepare`** for the preparation of a topic.
* **`Backend.read_error`**, **`Backend.write_error`** — the backends fail only with I/O errors.
* **`AppendOutcome`** and **`TopicStore.append_outcome`** — the inversion lemma of an append,
  which later proofs take apart instead of unfolding the append.
-/

namespace ScoreKeeper

/-! ## Files on a disk -/

namespace Disk

theorem node?_put_of_ne (d : Disk) {p q : Path} (n : Node) (h : q ≠ p) :
    (d.put p n).node? q = d.node? q := by
  -- an entry for `q` is found where it was: dropping `p`'s old entries does not hide it
  have hpred : (fun e : Path × Node => !decide (e.1 = p) && decide (e.1 = q)) =
      fun e => decide (e.1 = q) := by
    funext e
    by_cases he : e.1 = q
    · simp [he, h]
    · simp [he]
  unfold node? put
  split
  · rfl
  · simp [List.find?_append, List.find?_filter, hpred, Ne.symm h]

theorem node?_put_dir_of_none (d : Disk) {q : Path} (hq : d.node? q = none) (p : Path)
    (bytes : List UInt8) :
    (d.put q .dir).node? p = some (.file bytes) ↔ d.node? p = some (.file bytes) := by
  by_cases hpq : p = q
  · -- the new directory stands where nothing stood
    subst hpq
    rw [hq]
    unfold node? put
    split
    · simp
    · have hnone : List.find? (fun _ => false) d.nodes = none := List.find?_eq_none.2 (by simp)
      simp [List.find?_append, hnone]
  · rw [node?_put_of_ne d .dir hpq]

/-- **Creating directories keeps every file**: each step puts a directory where nothing was.
Induction on the number of prefixes left to make. -/
theorem createDirAll_files {p : Path} {d d' : Disk} (h : d.createDirAll p = .ok d') (q : Path)
    (bytes : List UInt8) : d'.node? q = some (.file bytes) ↔ d.node? q = some (.file bytes) := by
  unfold createDirAll at h
  generalize 1 = k at h
  generalize p.length = n at h
  induction n generalizing k d with
  | zero =>
    simp only [createDirAll.go, Except.ok.injEq] at h
    rw [h]
  | succ n ih =>
    unfold createDirAll.go at h
    split at h
    · exact ih (k + 1) h
    · cases h
    · rename_i hnone
      rw [ih (k + 1) h]
      exact node?_put_dir_of_none d hnone q bytes

end Disk

/-! ## Backends that store the same bytes -/

/-- `b'` stores exactly what `b` stores: the same bytes under every topic in memory, the same
files under the same root on disk. Directories, counters and switches may differ. -/
inductive Backend.SameStored : Backend → Backend → Prop
  | shelf {s s' : Shelf} : (∀ t, s'.lookup t = s.lookup t) → SameStored (.shelf s') (.shelf s)
  | disk {root : Path} {d d' : Disk} :
      (∀ p bytes, d'.node? p = some (.file bytes) ↔ d.node? p = some (.file bytes)) →
      SameStored (.disk root d') (.disk root d)

theorem Backend.sameStored_refl (b : Backend) : b.SameStored b := by
  cases b with
  | shelf s => exact .shelf fun _ => rfl
  | disk root d => exact .disk fun _ _ => Iff.rfl

theorem Backend.sameStored_prepare (b : Backend) (t : Topic) : (b.prepare t).SameStored b := by
  cases b with
  | shelf s => exact .shelf fun _ => rfl
  | disk root d =>
    simp only [prepare]
    split
    · rename_i d' hdirs
      exact .disk (Disk.createDirAll_files hdirs)
    · exact .disk fun _ _ => Iff.rfl

/-! ## Backends fail with I/O errors only -/

theorem Backend.read_error {b : Backend} {t : Topic} {e : StoreError}
    (h : b.read t = .error e) : ∃ o, e = .io o := by
  cases b with
  | shelf s => cases h
  | disk root d =>
    simp only [read] at h
    split at h
    · cases h
    · cases h
    · rename_i o _ _
      cases h
      exact ⟨o, rfl⟩

theorem Backend.write_error {b : Backend} {t : Topic} {bytes : List UInt8} {e : StoreError}
    (h : b.write t bytes = .error e) : ∃ o, e = .io o := by
  cases b with
  | shelf s =>
    simp only [write] at h
    split at h
    · cases h
      exact ⟨_, rfl⟩
    · cases h
  | disk root d =>
    simp only [write] at h
    split at h
    · rename_i o _
      cases h
      exact ⟨o, rfl⟩
    · split at h
      · cases h
        exact ⟨_, rfl⟩
      · cases h

theorem TopicStore.loadText_error {s : TopicStore} {t : Topic} {e : StoreError}
    (h : s.loadText t = .error e) : ∃ o, e = .io o := by
  unfold loadText at h
  cases hread : s.backend.read t with
  | error e' =>
    rw [hread] at h
    cases h
    exact Backend.read_error hread
  | ok o =>
    rw [hread] at h
    cases h

/-- **A read fails only when the storage does.** -/
theorem TopicStore.read_error {s : TopicStore} {t : Topic} {e : StoreError}
    (h : s.read t = .error e) : ∃ o, e = .io o := by
  unfold read at h
  cases hload : s.loadText t with
  | error e' =>
    rw [hload] at h
    cases h
    exact loadText_error hload
  | ok text =>
    rw [hload] at h
    cases h

/-! ## The outcome of an append -/

/-- The ways an append to the store `s` ends, with its answer and the store after it: refused
with the store untouched, failed with the key and every stored byte kept, or written under the
same key. -/
inductive AppendOutcome (s : TopicStore) : Except StoreError Document × TopicStore → Prop
  | rejected (e : CodecError) : AppendOutcome s (.error (.rejected e), s)
  | failed (e : OsError) (s' : TopicStore) : s'.key = s.key → s'.backend.SameStored s.backend →
      AppendOutcome s (.error (.io e), s')
  | written (d : Document) (s' : TopicStore) : s'.key = s.key → AppendOutcome s (.ok d, s')

/-- **Every append ends in one of the three ways.** A refusal can only come from the codec,
before storage is touched; an I/O error from reading leaves the store as it was, and one from
writing leaves it prepared. -/
theorem TopicStore.append_outcome (s : TopicStore) (t : Topic) (raw : String) :
    AppendOutcome s (s.append t raw) := by
  unfold append
  rw [merged_eq]
  cases decodeMerge s.key t (trimLine raw) with
  | error c => exact .rejected c
  | ok m =>
    -- the line decodes: the stored text is read, then the merge is written
    cases hload : s.loadText t with
    | error e =>
      obtain ⟨o, rfl⟩ := loadText_error hload
      exact .failed o s rfl (Backend.sameStored_refl _)
    | ok text =>
      dsimp only [Except.map]
      split
      · exact .written _ _ rfl
      · rename_i e hwrite
        obtain ⟨o, rfl⟩ := Backend.write_error hwrite
        exact .failed o _ rfl (Backend.sameStored_prepare _ t)

end ScoreKeeper
