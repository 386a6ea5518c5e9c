import ScoreKeeper.Session.Store
import ScoreKeeper.Session.CommandLine
import ScoreKeeper.Session.Remote
import ScoreKeeper.Json.Parse

/-!
# ScoreKeeper — answering requests

The session interface: one JSON request in, one JSON answer out. A request names its operation
in `op`; the answer is `{"ok": value}` or an error object.
-/

namespace ScoreKeeper.Session

/-- Answers a request object. -/
def answer (j : Json) : Outcome Json := do
  match ← needStr j "op" with
  | "entry_new" => entryNew j
  | "entry_from_json" => entryFromJson j
  | "pack_entry_new" => packEntryNew j
  | "validate_topic_name" => validateTopic j
  | "topic_parse" | "topic_from_str" => topicParse j
  | "topic_new" => topicNew j
  | "topic_json" => topicJson j
  | "checksummer_new" => checksumKeyNew j
  | "checksum" => checksumOf j
  | "encode_entry" => encodeEntry j
  | "decode_entry" => decodeEntry j
  | "trim_line" => trimLineAnswer j
  | "encode_document" => encodeDocumentAnswer j
  | "inspect_document" => inspectDocument j
  | "document_empty" => documentEmpty j
  | "leaderboard" => leaderboardSession j
  | "pack" => packSession j
  | "store" => storeSession j
  | "cli_parse" => commandLineSession j
  | "cli" => toolSession false j
  | "exec" => toolSession true j
  | "client" => clientSession j
  | "http_transport_new" => remoteNew j
  | "server_config" => serverConfigAnswer j
  | "server_new" => serverNew j
  | "http" => httpSession j
  | other => throw (.badInput ("unknown op " ++ Text.quoteString other))

/-- Answers one line of request text with one line of answer text. -/
def respond (line : String) : String :=
  let result := match Json.parse? line with
    | some j => answer j
    | none => .error (.badInput "request is not JSON")
  (Outcome.toJson result).render .line

end ScoreKeeper.Session
