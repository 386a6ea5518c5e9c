import ScoreKeeper.Session.Fields
import ScoreKeeper.Store.Document
import ScoreKeeper.Json.Write
import ScoreKeeper.Json.RecordReader

/-!
# ScoreKeeper — requests on records, topics and lines

The session requests that build records and topics, compute checksums, write and read lines and
documents, and drive a leaderboard or a pack through a list of steps. A failed step of a
sequence answers its error object and leaves the state as it was; later steps still run.
-/

namespace ScoreKeeper.Session

/-- A score read from `name` and `score` fields. -/
def scoreOf (j : Json) : Outcome Score := do
  let name ← needStr j "name"
  let points ← needInt32 j "score"
  liftField (Score.make? name points)

/-- A pack line read from a `text` field. -/
def noteOf (j : Json) : Outcome Note := do
  liftField (Note.make? (← needStr j "text"))

/-- A score as a compact pair `[name, score]`. -/
def scorePair (s : Score) : Json :=
  .arr [.str s.name, .int s.points.toInt]

/-- The fields of a score as a JSON record. -/
def scoreShape : JsonRecord.Shape :=
  ⟨"LeaderboardEntryFields", [("name", .text), ("score", .int32)]⟩

/-- The fields of a pack line as a JSON record. -/
def noteShape : JsonRecord.Shape :=
  ⟨"PackEntryFields", [("text", .text)]⟩

/-- A score built from its record fields. -/
def scoreOfFields : List JsonRecord.FieldValue → Except String Score
  | [.text name, .int32 points] => (Score.make? name points).mapError FieldError.message
  | _ => .error "a score has a name and a score"

/-- A pack line built from its record fields. -/
def noteOfFields : List JsonRecord.FieldValue → Except String Note
  | [.text t] => (Note.make? t).mapError FieldError.message
  | _ => .error "a pack line has a text"

/-- The `entry_from_json` request: a record read from JSON text, and its JSON form. -/
def entryFromJson (j : Json) : Outcome Json := do
  let kind ← kindOf j "kind"
  let text ← needStr j "json"
  let read := match kind with
    | .leaderboard => (JsonRecord.read scoreShape scoreOfFields text).map Score.toJson
    | .pack => (JsonRecord.read noteShape noteOfFields text).map Note.toJson
  match read with
  | .error e => throw ⟨"Json." ++ e.problem.category, e.message, []⟩
  | .ok entry => pure (.obj [("entry", entry), ("serialized", .str (entry.render .compact))])

/-- The answer describing a topic. -/
def topicAnswer (t : Topic) : Json :=
  .obj [("kind", .str t.kind.label), ("name", .str t.name), ("display", .str t.display)]

/-- The `entry_new` request: builds a score. -/
def entryNew (j : Json) : Outcome Json := do
  let s ← scoreOf j
  pure (.obj [("name", .str s.name), ("score", .int s.points.toInt), ("display", .str s.display)])

/-- The `pack_entry_new` request: builds a pack line. -/
def packEntryNew (j : Json) : Outcome Json := do
  let n ← noteOf j
  pure (.obj [("text", .str n.text), ("display", .str n.text)])

/-- The `validate_topic_name` request: checks a topic name. -/
def validateTopic (j : Json) : Outcome Json := do
  liftField (validateTopicName (← needStr j "name"))
  pure (.obj [("ok", .bool true)])

/-- The `topic_parse` request: reads a topic text. -/
def topicParse (j : Json) : Outcome Json := do
  topicAnswer <$> liftField (Topic.parse (← needStr j "s"))

/-- The `topic_new` request: builds a topic of a kind. -/
def topicNew (j : Json) : Outcome Json := do
  let kind ← kindOf j "kind"
  topicAnswer <$> liftField (Topic.make? kind (← needStr j "name"))

/-- The `topic_json` request: a topic's serialized form. -/
def topicJson (j : Json) : Outcome Json := do
  let kind ← kindOf j "kind"
  let t ← liftField (Topic.make? kind (← needStr j "name"))
  pure (.obj [("serialized", .str (t.toJson.render .compact)), ("display", .str t.display),
    ("kind_display", .str t.kind.pfx)])

/-- The `checksummer_new` request: checks a secret. -/
def checksumKeyNew (j : Json) : Outcome Json := do
  let k ← liftCodec (ChecksumKey.make? (← needWord j "secret"))
  pure (.obj [("secret", .str (toString k.secret.toNat))])

/-- The `checksum` request: a record's checksum. -/
def checksumOf (j : Json) : Outcome Json := do
  let sum ← match ← kindOf j "kind" with
    | .leaderboard => do
      let s ← scoreOf j
      pure ((← keyOf j "secret").ofScore s)
    | .pack => do
      let n ← noteOf j
      pure ((← keyOf j "secret").ofNote n)
  pure (.obj [("checksum", .str (toString sum.toNat))])

/-- The `encode_entry` request: a record's line. -/
def encodeEntry (j : Json) : Outcome Json := do
  let line ← match ← kindOf j "kind" with
    | .leaderboard => do
      let s ← scoreOf j
      pure (Score.encodeLine (← keyOf j "secret") s)
    | .pack => do
      let n ← noteOf j
      pure (Note.encodeLine (← keyOf j "secret") n)
  pure (.obj [("line", .str line)])

/-- The `decode_entry` request: reads one line as it is. -/
def decodeEntry (j : Json) : Outcome Json := do
  let kind ← kindOf j "kind"
  let line ← needStr j "line"
  let k ← keyOf j "secret"
  let entry ← match kind with
    | .leaderboard => Score.toJson <$> liftCodec (Score.decodeLine k line)
    | .pack => Note.toJson <$> liftCodec (Note.decodeLine k line)
  pure (.obj [("entry", entry)])

/-- The `trim_line` request: strips a line's framing. -/
def trimLineAnswer (j : Json) : Outcome Json := do
  pure (.obj [("line", .str (trimLine (← needStr j "raw")))])

/-- The `encode_document` request: the text of a list of records. -/
def encodeDocumentAnswer (j : Json) : Outcome Json := do
  let kind ← kindOf j "kind"
  let k ← keyOf j "secret"
  let items ← needArr j "entries"
  let text ← match kind with
    | .leaderboard => encodeDocument k <$> items.mapM scoreOf
    | .pack => encodeDocument k <$> items.mapM noteOf
  pure (.obj [("text", .str text)])

/-- The answer of a refused line. -/
def rejectedJson (r : RejectedLine) : Json :=
  .obj [("line_no", .nat r.lineNo), ("content", .str r.content), ("error", .str r.error.kindName),
    ("message", .str r.error.message)]

/-- The answer of a document's reading. -/
def reportJson {α : Type} (f : α → Json) (r : Report α) : Json :=
  .obj [("entries", .arr (r.entries.map f)), ("rejected", .arr (r.rejected.map rejectedJson)),
    ("clean", .bool r.isClean)]

/-- The `inspect_document` request: reads a document, keeping its refused lines. -/
def inspectDocument (j : Json) : Outcome Json := do
  let kind ← kindOf j "kind"
  let k ← keyOf j "secret"
  let text ← needStr j "text"
  match kind with
  | .leaderboard => pure (reportJson Score.toJson (inspect k text))
  | .pack => pure (reportJson Note.toJson (inspect k text))

/-- The summary of a document: kind, size and JSON form. -/
def documentSummary (d : Document) : Json :=
  .obj [("kind", .str d.kind.label), ("len", .nat d.size), ("is_empty", .bool d.isEmpty),
    ("is_leaderboard", .bool (d.kind = .leaderboard)), ("is_pack", .bool (d.kind = .pack)),
    ("document", d.toJson)]

/-- The `document_empty` request: the empty document of a kind. -/
def documentEmpty (j : Json) : Outcome Json := do
  pure (documentSummary (Document.empty (← kindOf j "kind")))

/-- Runs steps over a state; a failed step answers its error and keeps the state. -/
def runSteps {σ : Type} (step : σ → Json → Outcome (Json × σ)) : σ → List Json → List Json
  | _, [] => []
  | s, o :: os =>
    match step s o with
    | .ok (v, s') => v :: runSteps step s' os
    | .error f => Outcome.stepJson (.error f) :: runSteps step s os

/-- The answer of a sequence of steps. -/
def stepsAnswer (steps : List Json) : Json :=
  .obj [("steps", .arr steps)]

/-- The JSON form of what adding a score did. -/
def outcomeJson (o : AddOutcome) : Json :=
  let base := [("accepted", .bool o.accepted)]
  match o with
  | .inserted => .obj (("type", .str "Inserted") :: base)
  | .improved p => .obj (("type", .str "Improved") :: ("previous", .int p.toInt) :: base)
  | .kept e => .obj (("type", .str "Kept") :: ("existing", .int e.toInt) :: base)
  | .overflowed => .obj (("type", .str "Overflowed") :: base)

/-- One step on a leaderboard. -/
def leaderboardStep (b : Leaderboard) (o : Json) : Outcome (Json × Leaderboard) := do
  match ← needStr o "op" with
  | "add" =>
    let s ← scoreOf o
    let (outcome, b') := b.add s
    pure (.obj [("outcome", outcomeJson outcome), ("len", .nat b'.size),
      ("entries", .arr (b'.entries.map scorePair))], b')
  | "get" =>
    let name ← needStr o "name"
    pure (.obj [("entry", ((b.get? name).map Score.toJson).getD .null)], b)
  | "rank_of" =>
    let name ← needStr o "name"
    pure (.obj [("rank", ((b.rankOf? name).map Json.nat).getD .null)], b)
  | "top" =>
    let n ← needNat o "n"
    pure (.obj [("entries", .arr ((b.top n).map scorePair))], b)
  | "len" => pure (.obj [("len", .nat b.size), ("is_empty", .bool (b.size = 0))], b)
  | "entries" =>
    pure (.obj [("entries", .arr (b.entries.map Score.toJson)), ("same", .bool true)], b)
  | other => throw (.badInput ("unknown leaderboard op " ++ Text.quoteString other))

/-- The `leaderboard` request: steps on a board built from `initial`. -/
def leaderboardSession (j : Json) : Outcome Json := do
  let initial ← (·.getD []) <$> maybeArr j "initial"
  let entries ← initial.mapM scoreOf
  let ops ← needArr j "ops"
  pure (stepsAnswer (runSteps leaderboardStep (Leaderboard.ofList entries) ops))

/-- A pack line read from a JSON string. -/
def noteOfStr : Json → Outcome Note
  | .str t => liftField (Note.make? t)
  | _ => throw (mistyped "initial" "an array of strings")

/-- One step on a pack. -/
def packStep (p : Pack) (o : Json) : Outcome (Json × Pack) := do
  match ← needStr o "op" with
  | "push" =>
    let n ← noteOf o
    let (evicted, p') := p.push n
    pure (.obj [("evicted", .nat evicted), ("len", .nat p'.size),
      ("entries", .arr (p'.entries.map fun e => .str e.text))], p')
  | "latest" => pure (.obj [("latest", Json.optStr (p.latest?.map (·.text)))], p)
  | "len" => pure (.obj [("len", .nat p.size), ("is_empty", .bool (p.size = 0))], p)
  | "entries" => pure (.obj [("entries", .arr (p.entries.map Note.toJson)), ("len", .nat p.size)], p)
  | other => throw (.badInput ("unknown pack op " ++ Text.quoteString other))

/-- The `pack` request: steps on a pack built from `initial`. -/
def packSession (j : Json) : Outcome Json := do
  let initial ← (·.getD []) <$> maybeArr j "initial"
  let entries ← initial.mapM noteOfStr
  let ops ← needArr j "ops"
  pure (stepsAnswer (runSteps packStep (Pack.ofList entries) ops))

end ScoreKeeper.Session
