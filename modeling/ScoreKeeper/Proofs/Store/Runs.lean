import Mathlib
import ScoreKeeper.Proofs.Store.Append
import ScoreKeeper.Proofs.Board.Add

/-!
# ScoreKeeper — what a store kept in memory holds after any run of calls

A client calls a store over the shelf: it appends raw lines to topics of either kind, reads
topics, lists them and switches write failures on and off. Starting from the empty shelf, after
every run of such calls each topic's bytes are the canonical text of a well-formed document of
the topic's kind: a leaderboard whose points never rise, whose names are distinct and which
holds at most 999 scores, or a pack of at most 128 lines. So reading such text refuses no line,
and reading the topic gives back exactly the document whose text it is.

## The architecture

* **`Document.WellFormed`** and **`ShelfCanonical`** — the invariant: every topic present holds
  the UTF-8 text of a well-formed document of its kind.
* **`ShelfCanonical.storedBoard_valid`** — the board an append reads back from a canonical
  shelf is well formed (empty when the topic is absent).
* **`ShelfCanonical.merged`** — what an append merges is a well-formed document of the topic's
  kind, by `Leaderboard.Valid.add` and the pack's cut at 128.
* **`ShelfCanonical.next`** (the step lemma, one case per call) and **`ShelfCanonical.run`**
  (the run lemma, by induction on the calls).
* **`shelf_runs_stay_canonical`** — the invariant read out by kind, with the clean reading and
  the read-back of every stored document.
-/

namespace ScoreKeeper

/-! ## Calls and runs -/

/-- A call on a topic store. -/
inductive StoreCall where
  | read (t : Topic)
  | append (t : Topic) (raw : String)
  | list (kind : Kind)

/-- What a call answers: a document (a read, an append) or a listing. -/
inductive CallAnswer where
  | document (r : Except StoreError Document)
  | topics (r : Except StoreError (List Topic))

/-- A call run on its own: its answer and the store after it. -/
def StoreCall.runAlone (s : TopicStore) : StoreCall → CallAnswer × TopicStore
  | .read t => (.document (s.read t), s)
  | .append t raw => Prod.map .document id (s.append t raw)
  | .list kind => (.topics (s.list kind), s)

/-- A call a client makes on a store kept on the shelf: one of the store's calls, or the
switch that makes writes fail. -/
inductive ShelfCall where
  | call (c : StoreCall)
  | setFailWrites (fail : Bool)

/-- The store after a call; the failure switch belongs to the shelf. -/
def ShelfCall.next (s : TopicStore) : ShelfCall → TopicStore
  | .call c => (c.runAlone s).2
  | .setFailWrites fail =>
    match s.backend with
    | .shelf sh => { s with backend := .shelf { sh with failWrites := fail } }
    | .disk .. => s

/-- The store after a run of calls, first to last. -/
def ShelfCall.run (s : TopicStore) (calls : List ShelfCall) : TopicStore :=
  calls.foldl ShelfCall.next s

/-! ## The invariant -/

/-- A well-formed document: a leaderboard that keeps its rules, or a pack within its limit. -/
def Document.WellFormed : Document → Prop
  | .leaderboard b => b.Valid
  | .pack p => p.size ≤ maxPackEntries

/-- Every topic on the shelf holds the canonical text of a well-formed document of its kind. -/
def ShelfCanonical (k : ChecksumKey) (sh : Shelf) : Prop :=
  ∀ t bytes, sh.lookup t = some bytes →
    ∃ d : Document, d.kind = t.kind ∧ d.WellFormed ∧ bytes = Text.utf8 (d.encode k)

theorem shelfCanonical_empty (k : ChecksumKey) : ShelfCanonical k Shelf.empty := by
  intro t bytes h
  simp [Shelf.empty, Shelf.lookup] at h

section Canonical

variable {k : ChecksumKey} {sh : Shelf} {t : Topic}

/-- The board an append reads back from a canonical shelf is well formed: the board whose text
the topic holds, or the empty board when it holds nothing. -/
theorem ShelfCanonical.storedBoard_valid (hinv : ShelfCanonical k sh) (ht : t.kind = .leaderboard) :
    (Leaderboard.ofList (decodeDocument k (((sh.lookup t).map Text.textOfBytes).getD ""))).Valid := by
  cases hlook : sh.lookup t with
  | none => exact Leaderboard.valid_empty
  | some bytes =>
    obtain ⟨d, hkind, hwf, rfl⟩ := hinv t bytes hlook
    cases d with
    | leaderboard b =>
      have hdecode : decodeDocument k (encodeDocument k b.entries) = b.entries :=
        (Score.framedLines k).decodeDocument_encodeDocument b.entries
      simp only [Option.map_some, Option.getD_some, Text.textOfBytes_utf8]
      exact hdecode ▸ hwf
    | pack p => rw [ht] at hkind; cases hkind

/-- **What an append merges into a canonical shelf** is a well-formed document of the topic's
kind: a leaderboard stays well formed under `add`, and a pack is cut at its limit. -/
theorem ShelfCanonical.merged (hinv : ShelfCanonical k sh) {line : String} {doc : Document}
    (h : (⟨k, .shelf sh⟩ : TopicStore).merged t line = .ok doc) :
    doc.kind = t.kind ∧ doc.WellFormed := by
  cases hkind : t.kind with
  | leaderboard =>
    rw [TopicStore.merged_shelf_leaderboard k sh t hkind] at h
    cases hdec : Score.decodeLine k line with
    | error err => rw [hdec] at h; cases h
    | ok e =>
      rw [hdec] at h
      cases h
      exact ⟨rfl, (hinv.storedBoard_valid hkind).add e⟩
  | pack =>
    rw [TopicStore.merged_shelf_pack k sh t hkind] at h
    cases hdec : Note.decodeLine k line with
    | error err => rw [hdec] at h; cases h
    | ok n =>
      rw [hdec] at h
      cases h
      exact ⟨rfl, List.length_take_le _ _⟩

/-- The write count is not part of what the shelf holds. -/
@[simp]
theorem Shelf.lookup_writes (sh : Shelf) (n : Nat) (t : Topic) :
    ({ sh with writes := n } : Shelf).lookup t = sh.lookup t :=
  rfl

/-- Writing the canonical text of a well-formed document of a topic's kind keeps the shelf
canonical. -/
theorem ShelfCanonical.insert (hinv : ShelfCanonical k sh) {doc : Document}
    (hkind : doc.kind = t.kind) (hwf : doc.WellFormed) (n : Nat) :
    ShelfCanonical k { sh.insert t (Text.utf8 (doc.encode k)) with writes := n } := by
  intro t' bytes hlook
  rw [Shelf.lookup_writes] at hlook
  by_cases ht : t' = t
  · subst ht
    rw [Shelf.lookup_insert_self] at hlook
    cases hlook
    exact ⟨doc, hkind, hwf, rfl⟩
  · rw [Shelf.lookup_insert_of_ne _ ht] at hlook
    exact hinv t' bytes hlook

/-- An append keeps the shelf canonical: a refused line and a failed write change nothing, and a
written document is the merge. -/
theorem ShelfCanonical.append (hinv : ShelfCanonical k sh) (raw : String) :
    ∃ sh', ((⟨k, .shelf sh⟩ : TopicStore).append t raw).2 = ⟨k, .shelf sh'⟩ ∧
      ShelfCanonical k sh' := by
  rw [TopicStore.append_shelf]
  cases hmerged : (⟨k, .shelf sh⟩ : TopicStore).merged t (trimLine raw) with
  | error e => exact ⟨sh, rfl, hinv⟩
  | ok doc =>
    obtain ⟨hkind, hwf⟩ := hinv.merged hmerged
    by_cases hfail : sh.failWrites
    · simp only [hfail, if_true]
      exact ⟨sh, rfl, hinv⟩
    · simp only [hfail, if_false, Bool.false_eq_true]
      exact ⟨_, rfl, hinv.insert hkind hwf _⟩

end Canonical

/-- **The step lemma**: every call keeps a store over a canonical shelf on a canonical shelf. -/
theorem ShelfCanonical.next {k : ChecksumKey} {sh : Shelf} (hinv : ShelfCanonical k sh)
    (c : ShelfCall) :
    ∃ sh', ShelfCall.next ⟨k, .shelf sh⟩ c = ⟨k, .shelf sh'⟩ ∧ ShelfCanonical k sh' := by
  cases c with
  | call c =>
    cases c with
    | read _ => exact ⟨sh, rfl, hinv⟩
    | append t raw => exact hinv.append raw
    | list _ => exact ⟨sh, rfl, hinv⟩
  | setFailWrites fail =>
    -- the switch leaves every topic's bytes where they were
    exact ⟨{ sh with failWrites := fail }, rfl, fun t bytes h => hinv t bytes h⟩

/-- **The run lemma**: any run of calls keeps a store over a canonical shelf on a canonical
shelf. -/
theorem ShelfCanonical.run {k : ChecksumKey} {sh : Shelf} (hinv : ShelfCanonical k sh)
    (calls : List ShelfCall) :
    ∃ sh', ShelfCall.run ⟨k, .shelf sh⟩ calls = ⟨k, .shelf sh'⟩ ∧ ShelfCanonical k sh' := by
  -- induction on the calls, from any canonical shelf
  induction calls generalizing sh with
  | nil => exact ⟨sh, rfl, hinv⟩
  | cons c calls ih =>
    obtain ⟨sh₁, hnext, hinv₁⟩ := hinv.next c
    obtain ⟨sh', hrun, hinv'⟩ := ih hinv₁
    refine ⟨sh', ?_, hinv'⟩
    rw [ShelfCall.run, List.foldl_cons, hnext]
    exact hrun

/-- **After any run of calls from the empty shelf, every stored document is canonical**: a
leaderboard topic holds the text of a board whose points never rise, whose names are distinct
and which has at most 999 scores; a pack topic holds the text of at most 128 lines. Reading that
text refuses no line, and reading the topic gives back exactly that board or pack. -/
theorem shelf_runs_stay_canonical (k : ChecksumKey) (calls : List ShelfCall) :
    ∃ sh, ShelfCall.run ⟨k, .shelf Shelf.empty⟩ calls = ⟨k, .shelf sh⟩ ∧
      ∀ t bytes, sh.lookup t = some bytes →
        match t.kind with
        | .leaderboard => ∃ b : Leaderboard, b.Valid ∧
            bytes = Text.utf8 (encodeDocument k b.entries) ∧
            (inspect k (Text.textOfBytes bytes) : Report Score).rejected = [] ∧
            (⟨k, .shelf sh⟩ : TopicStore).read t = .ok (.leaderboard b)
        | .pack => ∃ p : Pack, p.size ≤ maxPackEntries ∧
            bytes = Text.utf8 (encodeDocument k p.entries) ∧
            (inspect k (Text.textOfBytes bytes) : Report Note).rejected = [] ∧
            (⟨k, .shelf sh⟩ : TopicStore).read t = .ok (.pack p) := by
  obtain ⟨sh, hrun, hinv⟩ := (shelfCanonical_empty k).run calls
  refine ⟨sh, hrun, fun t bytes hlook => ?_⟩
  obtain ⟨d, hkind, hwf, rfl⟩ := hinv t bytes hlook
  have hread := TopicStore.read_of_lookup hlook hkind
  rw [← hkind]
  cases d with
  | leaderboard b =>
    refine ⟨b, hwf, rfl, ?_, hread⟩
    rw [Text.textOfBytes_utf8]
    show (inspect k (encodeDocument k b.entries) : Report Score).rejected = []
    rw [(Score.framedLines k).inspect_encodeDocument]
  | pack p =>
    refine ⟨p, hwf, rfl, ?_, hread⟩
    rw [Text.textOfBytes_utf8]
    show (inspect k (encodeDocument k p.entries) : Report Note).rejected = []
    rw [(Note.framedLines k).inspect_encodeDocument]

end ScoreKeeper
