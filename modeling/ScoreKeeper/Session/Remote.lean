import ScoreKeeper.Session.Runs
import ScoreKeeper.Client.Transport
import ScoreKeeper.Server.Config
import ScoreKeeper.Server.Router

/-!
# ScoreKeeper — requests on clients and server configurations

* `client` runs steps on a transport: a store in this process (`local`, `local_owned`), or HTTP
  (`http`) to the base URL given, or else to a server started on a loopback address for the
  request. Client errors answer their kind, message and whether they are a refusal.
* `http_transport_new` checks a base URL and answers it as the transport writes it.
* `server_config` reads a configuration file's text; `server_new` builds a server from the
  defaults and the fields given.
* `http` sends requests, one after another, to the routes of a server over a fresh store in
  memory, and can make the store's writes fail.
-/

namespace ScoreKeeper.Session

open Client Net Server

/-- The kind of a client error. -/
def ClientError.kindName : ClientError → String
  | .invalidUrl .. => "InvalidUrl"
  | .transport .. => "Transport"
  | .refused .. => "Refused"
  | .server .. => "Server"
  | .store e => "Store." ++ StoreError.kindName e
  | .invalidTopic e => "InvalidTopic." ++ e.kindName
  | .join _ => "Join"

/-- A client error as a failure, with whether it is a refusal. -/
def ClientError.toFailure (e : ClientError) : Failure :=
  ⟨ClientError.kindName e, e.message, [("refused", .bool e.isRefused)]⟩

/-- Lifts a client call into an answer. -/
def liftClient {α : Type} (r : Except ClientError α) : Outcome α :=
  r.mapError ClientError.toFailure

/-- The steps every transport answers: fetching, submitting and listing. -/
def transportStep (t : Transport) (o : Json) (op : String) : Outcome (Option (Json × Transport)) := do
  match op with
  | "fetch" =>
    let topic ← topicOf o "topic"
    pure (some (.obj [("document", (← liftClient (t.fetch topic)).toJson)], t))
  | "submit" =>
    let topic ← topicOf o "topic"
    let line ← needStr o "line"
    let (r, t') := t.submit topic line
    pure (some (.obj [("document", (← liftClient r).toJson)], t'))
  | "list" =>
    let k ← kindOf o "kind"
    let ts ← liftClient (t.list k)
    pure (some (.obj [("topics", .arr (ts.map fun tp => .str tp.display))], t))
  | _ => pure none

/-- One client step. -/
def clientStep (t : Transport) (o : Json) : Outcome (Json × Transport) := do
  let op ← needStr o "op"
  match ← transportStep t o op with
  | some r => pure r
  | none =>
    match op, t with
    | "fail_writes", .inProcess s =>
      let fail ← needBool o "fail"
      match s.backend with
      | .shelf sh => pure (okTrue, .inProcess { s with backend := .shelf { sh with failWrites := fail } })
      | .disk .. => pure (okTrue, t)
    | "fail_writes", .remote _ =>
      let _ ← needBool o "fail"
      pure (okTrue, t)
    | "write_count", .inProcess s =>
      match s.backend with
      | .shelf sh => pure (.obj [("write_count", .nat sh.writes)], t)
      | .disk .. => pure (.obj [("write_count", .nat 0)], t)
    | "write_count", .remote _ => pure (.obj [("write_count", .nat 0)], t)
    | "debug", .inProcess s =>
      pure (.obj [("debug", .str ("LocalTransport \x7b store: " ++ storeDebug s ++ " \x7d"))], t)
    | "debug", .remote _ => throw (.badInput "debug needs a local transport")
    | _, _ => throw (.badInput ("unknown client op " ++ Text.quoteString op))

/-- The transport of a `client` request. -/
def requestTransport (j : Json) (key : ChecksumKey) : Outcome Transport := do
  match ← needStr j "transport" with
  | "local" | "local_owned" => pure (.inProcess ⟨key, .shelf Shelf.empty⟩)
  | "http" =>
    let _ ← match maybe j "server_secret" with
      | some _ => keyOf j "server_secret"
      | none => pure key
    let base ← match ← maybeStr j "base" with
      | some b => pure b
      | none =>
        match ← maybeStr j "server_host" with
        | none | some "127.0.0.1" => pure ("http://" ++ serverAddr.display)
        | some "::1" => throw (osFailure .addrNotAvailable)
        | some other =>
          throw (.badInput ("server_host " ++ Text.quoteString other ++ " is not a loopback address"))
    pure (.remote (← liftClient (Remote.make? base key)))
  | other => throw (.badInput ("unknown transport " ++ Text.quoteString other))

/-- The `client` request: steps on a transport. -/
def clientSession (j : Json) : Outcome Json := do
  let key ← keyOf j "secret"
  let t ← requestTransport j key
  let ops ← needArr j "ops"
  let ps := [("\x7bserver_addr\x7d", serverAddr.display)]
  pure (Json.mapText (restore ps) (stepsAnswer (runSteps clientStep t ops)))

/-- The `http_transport_new` request: a base URL as the transport writes it. -/
def remoteNew (j : Json) : Outcome Json := do
  let key ← keyOf j "secret"
  let r ← liftClient (Remote.make? (← needStr j "base") key)
  pure (.obj [("base", .str r.base.serialize)])

/-- A configuration error as a failure. -/
def configFailure (detail : String) : Failure :=
  ⟨"Config", configMessage detail, []⟩

/-- The fields of a configuration. -/
def configFields (c : ServerConfig) : List (String × Json) :=
  [("bind_addr", .str c.bindAddr.display), ("data_root", .str c.dataRoot),
    ("max_body_bytes", .nat c.maxBodyBytes)]

/-- The `server_config` request: the configuration a TOML text describes. -/
def serverConfigAnswer (j : Json) : Outcome Json := do
  match ServerConfig.fromToml (← needStr j "toml") with
  | .error msg => throw (configFailure msg)
  | .ok c => pure (.obj (configFields c ++ [("secret", .str (toString c.secret.toNat))]))

/-- The `server_new` request: a server built from the defaults and the fields given. -/
def serverNew (j : Json) : Outcome Json := do
  let c := ServerConfig.default
  let c ← match ← maybeStr j "bind_addr" with
    | none => pure c
    | some b =>
      match SocketAddr.parse? b with
      | some a => pure { c with bindAddr := a }
      | none => throw (.badInput ("bind_addr: " ++ addrSyntaxMessage))
  let c := match ← maybeStr j "data_root" with
    | some r => { c with dataRoot := r }
    | none => c
  let c := match ← maybeWord j "secret" with
    | some s => { c with secret := s }
    | none => c
  let c := match ← maybeNat j "max_body_bytes" with
    | some n => { c with maxBodyBytes := n }
    | none => c
  match c.key with
  | .error msg => throw (configFailure msg)
  | .ok key =>
    pure (.obj (configFields c ++ [("valid", .bool true), ("store_secret", .str (toString key.secret.toNat))]))

/-- A response as an answer: its body as text, or as hex bytes when it is not UTF-8. -/
def responseJson (r : Response) : Json :=
  .obj [("status", .nat r.status), ("content_type", Json.optStr r.contentType),
    ("body", if Text.isWellFormed r.body then .str (Text.textOfBytes r.body)
      else .obj [("hex", .str (Text.hexOfBytes r.body))])]

/-- One step of the `http` request: a request to the routes, or a switch of the store's writes. -/
def httpStep (r : Router) (o : Json) : Outcome (Json × Router) := do
  match maybe o "set_fail_writes" with
  | some _ =>
    let fail ← needBool o "set_fail_writes"
    match r.store.backend with
    | .shelf sh => pure (okTrue, { r with store := { r.store with backend := .shelf { sh with failWrites := fail } } })
    | .disk .. => pure (okTrue, r)
  | none =>
    let method := (← maybeStr o "method").getD "GET"
    let target ← needStr o "uri"
    let body := Text.utf8 ((← maybeStr o "body").getD "")
    let (resp, r') := r.handle ⟨method, target, body⟩
    pure (responseJson resp, r')

/-- The `http` request: requests to a server over a fresh store in memory. -/
def httpSession (j : Json) : Outcome Json := do
  let key ← keyOf j "secret"
  let limit := (← maybeNat j "max_body_bytes").getD 4096
  let requests ← needArr j "requests"
  pure (.obj [("responses", .arr (runSteps httpStep ⟨⟨key, .shelf Shelf.empty⟩, limit⟩ requests))])

end ScoreKeeper.Session
