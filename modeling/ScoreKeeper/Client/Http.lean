import ScoreKeeper.Client.Transport
import ScoreKeeper.Server.Router

/-!
# ScoreKeeper — the HTTP client's requests and answers

Over HTTP each call of a client is one request to a server's routes under the base URL:

* `fetch` sends `GET` to the topic's URL and reads the document from the answer's text with the
  client's key;
* `submit` sends `POST` to the topic's URL with the line as its body, and reads the answer the
  same way;
* `list` sends `GET` to the kind's URL and reads one topic name a line, skipping empty lines.

An answer with a 2xx status gives its body as text; any other is an error carrying the status and
the body without its trailing white space: a refusal for a 4xx status, a server error otherwise.

How a request travels is left open: an `Exchange` over a network in some state sends a request to
the URL in its target and gives back the response, or the error of a request that got none.
`offline` is the network of the hosts this library runs on, where no connection is ever made.
-/

namespace ScoreKeeper

namespace Text

/-- Whether a character is white space: the Unicode `White_Space` property. -/
def isWhiteSpace (c : Char) : Bool :=
  let n := c.toNat
  (0x09 ≤ n && n ≤ 0x0D) || n = 0x20 || n = 0x85 || n = 0xA0 || n = 0x1680 ||
    (0x2000 ≤ n && n ≤ 0x200A) || n = 0x2028 || n = 0x2029 || n = 0x202F || n = 0x205F ||
    n = 0x3000

/-- A text without its trailing white space. -/
def trimEnd (s : String) : String :=
  String.ofList (dropTrailing isWhiteSpace s.toList)

/-- The lines of a text: cut at each line feed, dropping a carriage return just before it. A final
line feed ends the last line instead of starting an empty one. -/
def lines (s : String) : List String :=
  let pieces := s.toList.splitOn '\n'
  let ended := pieces.dropLast.map fun l =>
    String.ofList (if l.getLast? = some '\r' then l.dropLast else l)
  match pieces.getLast? with
  | some [] | none => ended
  | some last => ended ++ [String.ofList last]

end Text

namespace Client

open Server

/-- Sends a request to the URL in its target over a network in state `σ`: the response, or the
error of a request that got none, and the network after it. -/
abbrev Exchange (σ : Type) := σ → Request → Except ClientError Response × σ

/-- A network where every connection fails, the way the URL decides. -/
def offline : Exchange Unit :=
  fun _ req => (.error (requestFailure req.target), ())

/-- The text of a successful response, or the server's error message. -/
def bodyText (resp : Response) : Except ClientError String :=
  let body := Text.textOfBytes resp.body
  if 200 ≤ resp.status ∧ resp.status < 300 then .ok body
  else if 400 ≤ resp.status ∧ resp.status < 500 then
    .error (.refused resp.status (Text.trimEnd body))
  else .error (.server resp.status (Text.trimEnd body))

/-- The topics named by the lines of a listing, skipping empty lines. -/
def topicsOfListing (k : Kind) (text : String) : Except ClientError (List Topic) :=
  ((Text.lines text).filter (· ≠ "")).mapM fun name => (Topic.make? k name).mapError .invalidTopic

namespace Remote

variable {σ : Type}

/-- Fetches a topic's document over an exchange. -/
def fetchOver (r : Remote) (ex : Exchange σ) (st : σ) (t : Topic) :
    Except ClientError Document × σ :=
  let (sent, st') := ex st ⟨"GET", r.topicUrl t, []⟩
  ((do
    let text ← bodyText (← sent)
    pure (Document.decode t.kind r.key text)), st')

/-- Submits a line to a topic over an exchange. -/
def submitOver (r : Remote) (ex : Exchange σ) (st : σ) (t : Topic) (line : String) :
    Except ClientError Document × σ :=
  let (sent, st') := ex st ⟨"POST", r.topicUrl t, Text.utf8 line⟩
  ((do
    let text ← bodyText (← sent)
    pure (Document.decode t.kind r.key text)), st')

/-- Lists the topics of a kind over an exchange. -/
def listOver (r : Remote) (ex : Exchange σ) (st : σ) (k : Kind) :
    Except ClientError (List Topic) × σ :=
  let (sent, st') := ex st ⟨"GET", r.kindUrl k, []⟩
  ((do topicsOfListing k (← bodyText (← sent))), st')

end Remote

end Client

end ScoreKeeper
