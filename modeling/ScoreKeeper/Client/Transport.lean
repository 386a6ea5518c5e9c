import ScoreKeeper.Client.Error
import ScoreKeeper.Store.TopicStore
import ScoreKeeper.Net.Url

/-!
# ScoreKeeper — transports

A client reaches the topics of a store either in this process, through the store itself, or over
HTTP, through a server's `/api/highscore` and `/api/pack` routes under a base URL. A remote base
must parse as a URL with the `http` or `https` scheme. A request's URL is the base without its
trailing slashes, `/api/`, the kind's prefix and, for a topic, `/` and its name; a user name and
password in it are sent as credentials, not as part of the URL.

The hosts this library runs on have no route to any network: every connection attempt fails, the
way its URL decides. A scheme other than `http` is refused by the connector, a host name other
than `localhost` does not resolve, and an address is unreachable.
-/

namespace ScoreKeeper.Client

open Net

/-- A server reached over HTTP. -/
structure Remote where
  base : Url
  key : ChecksumKey

/-- A remote transport for a base URL, if the URL is one. -/
def Remote.make? (base : String) (key : ChecksumKey) : Except ClientError Remote :=
  match Url.parse base with
  | .error e => .error (.invalidUrl base e.message)
  | .ok u =>
    if u.scheme = "http" || u.scheme = "https" then .ok ⟨u, key⟩
    else .error (.invalidUrl base ("unsupported scheme " ++ Text.quoteString u.scheme))

/-- A text without its trailing slashes. -/
def trimSlashes (s : String) : String :=
  String.ofList (s.toList.reverse.dropWhile (· = '/')).reverse

/-- The URL of a kind's route. -/
def Remote.kindUrl (r : Remote) (k : Kind) : String :=
  trimSlashes r.base.serialize ++ "/api/" ++ k.pfx

/-- The URL of a topic's route. -/
def Remote.topicUrl (r : Remote) (t : Topic) : String :=
  r.kindUrl t.kind ++ "/" ++ t.name

/-- How a connection to a URL fails. -/
def connectFailure (u : Url) : ConnectFailure :=
  if u.scheme ≠ "http" then .notHttp
  else match u.host with
    | some (.domain d) => if d = "localhost" then .unreachable else .unresolved
    | _ => .unreachable

/-- The URL a request goes to: a user name or password moves out of it into the request's
credentials, unless the user name is not UTF-8 once percent-decoded. -/
def withoutCredentials (u : Url) : Url :=
  if (u.username = "" && u.password = "") || !Text.isWellFormed (percentDecode (Text.utf8 u.username))
  then u
  else { u with username := "", password := "" }

/-- The failure of a request to a URL text: the URL as the request writes it, and why it could
not connect. -/
def requestFailure (text : String) : ClientError :=
  match Url.parse text with
  | .ok u => .transport (withoutCredentials u).serialize (connectFailure u)
  | .error _ => .transport text .unreachable

/-- The ways to reach topics. -/
inductive Transport where
  | inProcess (store : TopicStore)
  | remote (r : Remote)

namespace Transport

/-- The document of a topic; empty when it was never written. -/
def fetch : Transport → Topic → Except ClientError Document
  | .inProcess s, t => (s.read t).mapError .store
  | .remote r, t => .error (requestFailure (r.topicUrl t))

/-- Submits an encoded line to a topic: the document after it, and the transport after. -/
def submit : Transport → Topic → String → Except ClientError Document × Transport
  | .inProcess s, t, line =>
    let (result, s') := s.append t line
    (result.mapError .store, .inProcess s')
  | .remote r, t, _ => (.error (requestFailure (r.topicUrl t)), .remote r)

/-- The topics of a kind that have a document. -/
def list : Transport → Kind → Except ClientError (List Topic)
  | .inProcess s, k => (s.list k).mapError .store
  | .remote r, k => .error (requestFailure (r.kindUrl k))

end Transport

end ScoreKeeper.Client
