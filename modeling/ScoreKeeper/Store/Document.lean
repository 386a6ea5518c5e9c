import ScoreKeeper.Board.Leaderboard
import ScoreKeeper.Board.Pack
import ScoreKeeper.Codec.Document
import ScoreKeeper.Topic
import ScoreKeeper.Json.Value

/-!
# ScoreKeeper — stored documents

A document is what one topic stores: a leaderboard or a pack. Its text is its records' lines
(`Document.encode`); reading text back (`Document.decode`) keeps the lines that decode, in
order, without sorting or capping. Its JSON form is `{"kind": .., "entries": [..]}`, scores as
`{"name": .., "score": ..}` and pack lines as `{"text": ..}`.
-/

namespace ScoreKeeper

/-- The contents of one topic. -/
inductive Document where
  | leaderboard (b : Leaderboard)
  | pack (p : Pack)
  deriving DecidableEq

namespace Document

/-- The empty document of a kind. -/
def empty : Kind → Document
  | .leaderboard => .leaderboard ⟨[]⟩
  | .pack => .pack ⟨[]⟩

/-- The document's kind. -/
def kind : Document → Kind
  | .leaderboard _ => .leaderboard
  | .pack _ => .pack

/-- The number of records. -/
def size : Document → Nat
  | .leaderboard b => b.size
  | .pack p => p.size

/-- Whether the document holds no record. -/
def isEmpty (d : Document) : Bool :=
  d.size = 0

/-- The document's text under a key. -/
def encode (k : ChecksumKey) : Document → String
  | .leaderboard b => encodeDocument k b.entries
  | .pack p => encodeDocument k p.entries

/-- Reads a document of a kind, keeping the lines that decode. -/
def decode (kind : Kind) (k : ChecksumKey) (text : String) : Document :=
  match kind with
  | .leaderboard => .leaderboard (.ofList (decodeDocument k text))
  | .pack => .pack (.ofList (decodeDocument k text))

end Document

/-- The JSON form of a score. -/
def Score.toJson (s : Score) : Json :=
  .obj [("name", .str s.name), ("score", .int s.points.toInt)]

/-- The JSON form of a pack line. -/
def Note.toJson (n : Note) : Json :=
  .obj [("text", .str n.text)]

/-- The JSON form of a document. -/
def Document.toJson : Document → Json
  | .leaderboard b => .obj [("kind", .str "leaderboard"), ("entries", .arr (b.entries.map Score.toJson))]
  | .pack p => .obj [("kind", .str "pack"), ("entries", .arr (p.entries.map Note.toJson))]

/-- The JSON form of a topic. -/
def Topic.toJson (t : Topic) : Json :=
  .obj [("kind", .str t.kind.label), ("name", .str t.name)]

end ScoreKeeper
