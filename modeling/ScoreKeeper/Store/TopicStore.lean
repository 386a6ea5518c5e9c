import ScoreKeeper.Store.Backend
import ScoreKeeper.Store.Document
import ScoreKeeper.Text.Utf8

/-!
# ScoreKeeper — the topic store

A store reads, appends to and lists topics over a backend, under one checksum key. Reading
decodes the stored bytes leniently and keeps the lines that verify. Appending trims the
submitted line and decodes it before touching storage, so a refused line changes nothing; it then
merges the record into the stored document (a leaderboard's `add`, a pack's `push`), prepares the
topic's storage, ignoring a failure there, and writes the document's canonical text back, even
when the record changed nothing.
-/

namespace ScoreKeeper

/-- A backend with the key that signs its lines. -/
structure TopicStore where
  key : ChecksumKey
  backend : Backend

namespace TopicStore

/-- The stored text of a topic; empty when it has none. -/
def loadText (s : TopicStore) (t : Topic) : Except StoreError String :=
  (s.backend.read t).map fun o => (o.map Text.textOfBytes).getD ""

/-- The document of a topic. -/
def read (s : TopicStore) (t : Topic) : Except StoreError Document := do
  pure (Document.decode t.kind s.key (← s.loadText t))

/-- The document after merging a line, before it is written. -/
def merged (s : TopicStore) (t : Topic) (line : String) : Except StoreError Document :=
  match t.kind with
  | .leaderboard => do
    let e ← (Score.decodeLine s.key line).mapError .rejected
    let text ← s.loadText t
    pure (.leaderboard ((Leaderboard.ofList (decodeDocument s.key text)).add e).2)
  | .pack => do
    let e ← (Note.decodeLine s.key line).mapError .rejected
    let text ← s.loadText t
    pure (.pack ((Pack.ofList (decodeDocument s.key text)).push e).2)

/-- Appends a line to a topic: the document as written, and the store after. -/
def append (s : TopicStore) (t : Topic) (raw : String) : Except StoreError Document × TopicStore :=
  match s.merged t (trimLine raw) with
  | .error e => (.error e, s)
  | .ok doc =>
    let b := s.backend.prepare t
    match b.write t (Text.utf8 (doc.encode s.key)) with
    | .ok b' => (.ok doc, { s with backend := b' })
    | .error e => (.error e, { s with backend := b })

/-- The topics of a kind. -/
def list (s : TopicStore) (k : Kind) : Except StoreError (List Topic) :=
  s.backend.list k

end TopicStore

end ScoreKeeper
