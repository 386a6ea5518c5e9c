import Mathlib
import ScoreKeeper.Store.TopicStore
import ScoreKeeper.Proofs.Codec.DocumentRoundTrip
import ScoreKeeper.Proofs.Text.Utf8

/-!
# ScoreKeeper — what appending a line does to a store kept in memory

A store over the shelf holds each topic's bytes, a switch that makes writes fail and a count of
the writes that succeeded. Appending a raw line to a topic goes in three ways:

* the trimmed line does not decode as a record of the topic's kind: the codec's error comes back
  as a refusal and nothing changes, not even the write count;
* it decodes, but the shelf fails its writes: the injected I/O error comes back and nothing
  changes;
* otherwise the stored document (its bytes decoded leniently, empty when absent) takes the
  record by its kind's rule, a leaderboard's `add` or a pack's `push`; the merged document is
  answered and written back canonically under that topic alone, the write count grows by one,
  and reading the topic afterwards gives the merged document.

## The architecture

* **`Shelf.lookup_insert_self`**, **`Shelf.lookup_insert_of_ne`** — the shelf as a map.
* **`TopicStore.append_shelf`**, **`TopicStore.merged_shelf_leaderboard`**,
  **`TopicStore.merged_shelf_pack`** — the store's steps on the shelf, opened once.
* **`AppendsOnShelf`** — the three ways, stated once for a record type and the merge it makes;
  **`appendsOnShelf_of_merged`** proves them from a merge equation, the read-back by the
  document round trip and `textOfBytes_utf8`.
* **`TopicStore.append_encodeLine_shelf`** — a score line signed with the store's key is stored.
* **`append_on_shelf`** — both kinds of topic.
-/

namespace ScoreKeeper

/-! ## The shelf as a map -/

@[simp]
theorem Shelf.lookup_insert_self (sh : Shelf) (t : Topic) (bytes : List UInt8) :
    (sh.insert t bytes).lookup t = some bytes := by
  -- the old entries of `t` were dropped, so the search reaches the new last one
  have hnone : (sh.docs.filter fun e => e.1 ≠ t).find? (fun e => e.1 = t) = none :=
    List.find?_eq_none.2 fun e he => by simpa using (List.mem_filter.1 he).2
  simp only [Shelf.lookup, Shelf.insert, List.find?_append, hnone, Option.none_or]
  simp

@[simp]
theorem Shelf.lookup_insert_of_ne (sh : Shelf) {t t' : Topic} (h : t' ≠ t) (bytes : List UInt8) :
    (sh.insert t bytes).lookup t' = sh.lookup t' := by
  -- a topic other than `t` is found where it was: dropping `t`'s old entry does not hide it
  have hpred : (fun e : Topic × List UInt8 => !decide (e.1 = t) && decide (e.1 = t')) =
      fun e => decide (e.1 = t') := by
    funext e
    by_cases he : e.1 = t'
    · simp [he, h]
    · simp [he]
  simp [Shelf.lookup, Shelf.insert, List.find?_append, List.find?_filter, hpred, Ne.symm h]

/-- A shelf after one counted write of `bytes` under topic `t`: `t` holds exactly those bytes,
every other topic keeps its own, the write count grows by one and the failure switch stays. -/
structure Shelf.WroteOnce (sh sh' : Shelf) (t : Topic) (bytes : List UInt8) : Prop where
  lookup_self : sh'.lookup t = some bytes
  lookup_other : ∀ t', t' ≠ t → sh'.lookup t' = sh.lookup t'
  writes_succ : sh'.writes = sh.writes + 1
  failWrites_eq : sh'.failWrites = sh.failWrites

theorem Shelf.wroteOnce_insert (sh : Shelf) (t : Topic) (bytes : List UInt8) :
    sh.WroteOnce { sh.insert t bytes with writes := sh.writes + 1 } t bytes where
  lookup_self := sh.lookup_insert_self t bytes
  lookup_other _ h := sh.lookup_insert_of_ne h bytes
  writes_succ := rfl
  failWrites_eq := rfl

/-! ## The store's steps on the shelf -/

namespace TopicStore

variable (k : ChecksumKey) (sh : Shelf) (t : Topic)

theorem loadText_shelf :
    (⟨k, .shelf sh⟩ : TopicStore).loadText t =
      .ok (((sh.lookup t).map Text.textOfBytes).getD "") :=
  rfl

theorem read_shelf :
    (⟨k, .shelf sh⟩ : TopicStore).read t =
      .ok (Document.decode t.kind k (((sh.lookup t).map Text.textOfBytes).getD "")) :=
  rfl

/-- An append on the shelf: the merge, then one write that the shelf may refuse. Preparing a
topic does nothing in memory. -/
theorem append_shelf (raw : String) :
    (⟨k, .shelf sh⟩ : TopicStore).append t raw =
      match (⟨k, .shelf sh⟩ : TopicStore).merged t (trimLine raw) with
      | .error e => (.error e, ⟨k, .shelf sh⟩)
      | .ok doc =>
        if sh.failWrites then (.error (.io (.other "injected write failure")), ⟨k, .shelf sh⟩)
        else (.ok doc, ⟨k, .shelf
          { sh.insert t (Text.utf8 (doc.encode k)) with writes := sh.writes + 1 }⟩) := by
  unfold append
  cases (⟨k, .shelf sh⟩ : TopicStore).merged t (trimLine raw) with
  | error e => rfl
  | ok doc =>
    by_cases hfail : sh.failWrites
    · simp [Backend.prepare, Backend.write, hfail]
    · simp [Backend.prepare, Backend.write, hfail]

theorem merged_shelf_leaderboard (ht : t.kind = .leaderboard) (line : String) :
    (⟨k, .shelf sh⟩ : TopicStore).merged t line =
      ((Score.decodeLine k line).mapError .rejected).map fun e =>
        .leaderboard ((Leaderboard.ofList
          (decodeDocument k (((sh.lookup t).map Text.textOfBytes).getD ""))).add e).2 := by
  unfold merged
  rw [ht]
  cases Score.decodeLine k line <;> rfl

theorem merged_shelf_pack (ht : t.kind = .pack) (line : String) :
    (⟨k, .shelf sh⟩ : TopicStore).merged t line =
      ((Note.decodeLine k line).mapError .rejected).map fun n =>
        .pack ((Pack.ofList
          (decodeDocument k (((sh.lookup t).map Text.textOfBytes).getD ""))).push n).2 := by
  unfold merged
  rw [ht]
  cases Note.decodeLine k line <;> rfl

end TopicStore

/-- **A topic holding a document's canonical bytes reads back as that document.** -/
theorem TopicStore.read_of_lookup {k : ChecksumKey} {sh : Shelf} {t : Topic} {d : Document}
    (h : sh.lookup t = some (Text.utf8 (d.encode k))) (hkind : d.kind = t.kind) :
    (⟨k, .shelf sh⟩ : TopicStore).read t = .ok d := by
  rw [TopicStore.read_shelf, h, Option.map_some, Option.getD_some, Text.textOfBytes_utf8,
    ← hkind, Document.decode_encode]

/-! ## The contract of an append -/

/-- What appending `raw` to topic `t` of the store with key `k` over the shelf `sh` does, given
what the trimmed line decodes to (`decoded`) and the document a decoded record makes of the
stored one (`merge`): a line that does not decode is refused and changes nothing, a write the
shelf fails is reported and changes nothing, and otherwise the merged document is answered,
written canonically under the topic alone and read back by the next read. -/
structure AppendsOnShelf {α : Type} (k : ChecksumKey) (sh : Shelf) (t : Topic) (raw : String)
    (decoded : Except CodecError α) (merge : α → Document) : Prop where
  rejected : ∀ err, decoded = .error err →
    (⟨k, .shelf sh⟩ : TopicStore).append t raw = (.error (.rejected err), ⟨k, .shelf sh⟩)
  failed : ∀ e, decoded = .ok e → sh.failWrites = true →
    (⟨k, .shelf sh⟩ : TopicStore).append t raw =
      (.error (.io (.other "injected write failure")), ⟨k, .shelf sh⟩)
  written : ∀ e, decoded = .ok e → sh.failWrites = false →
    ∃ sh', (⟨k, .shelf sh⟩ : TopicStore).append t raw = (.ok (merge e), ⟨k, .shelf sh'⟩) ∧
      sh.WroteOnce sh' t (Text.utf8 ((merge e).encode k)) ∧
      (⟨k, .shelf sh'⟩ : TopicStore).read t = .ok (merge e)

/-- The contract holds of any line format whose merge the store computes and which keeps the
topic's kind. -/
theorem appendsOnShelf_of_merged {α : Type} {k : ChecksumKey} {sh : Shelf} {t : Topic}
    {raw : String} {decoded : Except CodecError α} {merge : α → Document}
    (hmerged : (⟨k, .shelf sh⟩ : TopicStore).merged t (trimLine raw) =
      (decoded.mapError .rejected).map merge)
    (hkind : ∀ e, (merge e).kind = t.kind) :
    AppendsOnShelf k sh t raw decoded merge where
  rejected err hdec := by
    rw [TopicStore.append_shelf, hmerged, hdec]
    rfl
  failed e hdec hfail := by
    rw [TopicStore.append_shelf, hmerged, hdec]
    simp [hfail, Except.map, Except.mapError]
  written e hdec hfail := by
    have hwrote := sh.wroteOnce_insert t (Text.utf8 ((merge e).encode k))
    rw [TopicStore.append_shelf, hmerged, hdec]
    simp only [Except.mapError, Except.map, hfail, if_false, Bool.false_eq_true]
    exact ⟨_, rfl, hwrote, TopicStore.read_of_lookup hwrote.lookup_self (hkind e)⟩

/-- A score line signed with the store's key is stored on a leaderboard whose shelf takes writes:
the answer is the board with the score added. -/
theorem TopicStore.append_encodeLine_shelf (k : ChecksumKey) (sh : Shelf) (t : Topic)
    (ht : t.kind = .leaderboard) (hfail : sh.failWrites = false) (s : Score) :
    ∃ sh', (⟨k, .shelf sh⟩ : TopicStore).append t (s.encodeLine k) =
      (.ok (.leaderboard ((Leaderboard.ofList
        (decodeDocument k (((sh.lookup t).map Text.textOfBytes).getD ""))).add s).2),
        ⟨k, .shelf sh'⟩) := by
  have htrim : trimLine (s.encodeLine k) = s.encodeLine k := (Score.framedLines k).trimLine_encode s
  have hline : Score.decodeLine k (trimLine (s.encodeLine k)) = .ok s := by
    rw [htrim]
    exact s.encodeLine_reads_back k
  obtain ⟨sh', happ, -, -⟩ := (appendsOnShelf_of_merged
    (TopicStore.merged_shelf_leaderboard k sh t ht _) fun _ => ht.symm).written s hline hfail
  exact ⟨sh', happ⟩

/-- **Appending a line to a topic kept on the shelf.** The stored document is the one read
from the topic's bytes (`Document.decode` of that text is the board or pack below); the record
is the trimmed line decoded as the topic's kind; a leaderboard takes it by `add`, a pack by
`push`. A refused line or a failed write changes nothing; otherwise the merged document is
answered, written canonically under the topic alone with one more write counted, and read back
by the next read. -/
theorem append_on_shelf (k : ChecksumKey) (sh : Shelf) (t : Topic) (raw : String) :
    let text := ((sh.lookup t).map Text.textOfBytes).getD ""
    match t.kind with
    | .leaderboard => AppendsOnShelf k sh t raw (Score.decodeLine k (trimLine raw))
        fun e => .leaderboard ((Leaderboard.ofList (decodeDocument k text)).add e).2
    | .pack => AppendsOnShelf k sh t raw (Note.decodeLine k (trimLine raw))
        fun n => .pack ((Pack.ofList (decodeDocument k text)).push n).2 := by
  intro text
  split
  · next ht =>
    exact appendsOnShelf_of_merged (TopicStore.merged_shelf_leaderboard k sh t ht _)
      fun _ => ht.symm
  · next ht =>
    exact appendsOnShelf_of_merged (TopicStore.merged_shelf_pack k sh t ht _) fun _ => ht.symm

end ScoreKeeper
