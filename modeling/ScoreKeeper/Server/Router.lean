import ScoreKeeper.Store.TopicStore
import ScoreKeeper.Json.Write
import ScoreKeeper.Net.Percent

/-!
# ScoreKeeper — the HTTP routes

A server answers requests over a topic store:

```
GET  /v1/health              {"status":"ok","version":"0.1.0"}
GET  /v1/info                the limits of the documents
GET  /api/highscore          the leaderboard topics, one name a line
GET  /api/highscore/<topic>  a leaderboard's lines, or its JSON form with ?format=json
POST /api/highscore/<topic>  merges the body, one line, and answers the lines after it
GET, POST /api/pack[/<topic>]  the same for packs
```

* A path matches a route segment by segment, as written: a topic is one non-empty segment, and
  nothing else matches (404). A route answers `GET`, `HEAD` (the `GET` answer without its body)
  and, for a topic, `POST`; any other method is refused (405). Both refusals have no body.
* A topic segment is percent-decoded and must then be UTF-8; the query is read as form fields,
  where only `format` counts and may appear once; a body above the limit is refused (413), and
  so is a body that is not UTF-8 (400), before the topic is checked.
* A refused topic or a refused line is a client error (400); a store that fails is a server
  error (500). Every text answer is UTF-8 plain text.
-/

namespace ScoreKeeper.Server

open Net

/-- A request as the routes see it. -/
structure Request where
  method : String
  target : String
  body : List UInt8

/-- A response. -/
structure Response where
  status : Nat
  contentType : Option String
  body : List UInt8

/-- A plain-text response. -/
def Response.text (status : Nat) (body : String) : Response :=
  ⟨status, some "text/plain; charset=utf-8", Text.utf8 body⟩

/-- A JSON response. -/
def Response.json (j : Json) : Response :=
  ⟨200, some "application/json", Text.utf8 (j.render .compact)⟩

/-- A response with only a status. -/
def Response.bare (status : Nat) : Response :=
  ⟨status, none, []⟩

/-- A server: its store and the largest request body it accepts. -/
structure Router where
  store : TopicStore
  maxBodyBytes : Nat

/-- The routes. -/
inductive Route where
  | health
  | info
  | listing (k : Kind)
  | topic (k : Kind) (segment : String)
  deriving DecidableEq, Repr

/-- The kind a route prefix names. -/
def kindOfRoute : String → Option Kind
  | "highscore" => some .leaderboard
  | "pack" => some .pack
  | _ => none

/-- The route of a path. -/
def routeOf (path : String) : Option Route :=
  match path.splitOn "/" with
  | ["", "v1", "health"] => some .health
  | ["", "v1", "info"] => some .info
  | ["", "api", p] => (kindOfRoute p).map .listing
  | ["", "api", p, segment] => if segment = "" then none else (kindOfRoute p).map (.topic · segment)
  | _ => none

/-- A request target split into its path and its query, without a fragment. -/
def splitTarget (target : String) : String × Option String :=
  let noFragment := (target.splitOn "#").headD ""
  match noFragment.splitOn "?" with
  | [] => ("", none)
  | [path] => (path, none)
  | path :: rest => (path, some ("?".intercalate rest))

/-- A form-encoded component: `+` is a space, `%XX` a byte, and bytes that are not UTF-8 become
replacement characters. -/
def formDecode (s : String) : String :=
  let bytes := (Text.utf8 s).map fun b => if b = 43 then 32 else b
  Text.textOfBytes (percentDecode bytes)

/-- The fields of a form-encoded query: pairs split at `&`, empty ones skipped, each split at its
first `=`. -/
def formFields (query : String) : List (String × String) :=
  (query.splitOn "&").filterMap fun part =>
    if part.isEmpty then none
    else match part.splitOn "=" with
      | [] => none
      | [k] => some (formDecode k, "")
      | k :: rest => some (formDecode k, formDecode ("=".intercalate rest))

/-- The `format` field of a query, or the reason the query is refused. -/
def formatOf (query : String) : Except String (Option String) :=
  List.foldlM (fun found (kv : String × String) =>
    if kv.1 = "format" then
      if found.isSome then .error "duplicate field `format`" else .ok (some kv.2)
    else .ok found) none (formFields query)

/-- The response to a store error: the entry's fault, or the server's. -/
def storeErrorResponse (e : StoreError) : Response :=
  .text (if e.isRejected then 400 else 500) ("store error: " ++ e.message)

/-- A route segment percent-decoded, or the refusal when that is not UTF-8. -/
def decodeSegment (segment : String) : Except Response String :=
  let bytes := percentDecode (Text.utf8 segment)
  if Text.isWellFormed bytes then .ok (Text.textOfBytes bytes)
  else .error (.text 400 "Invalid URL: Invalid UTF-8 in `topic`")

/-- The topic of a kind with a name, or the refusal. -/
def topicNamed (k : Kind) (name : String) : Except Response Topic :=
  (Topic.make? k name).mapError fun e => .text 400 ("invalid topic: " ++ e.message)

/-- The health answer. -/
def healthJson : Json :=
  .obj [("status", .str "ok"), ("version", .str "0.1.0")]

/-- The limits of the documents. -/
def infoJson : Json :=
  .obj [("max_entries", .nat 999), ("max_pack_entries", .nat 128), ("name", .str "highscore-server"),
    ("version", .str "0.1.0")]

/-- Answers a read of a route. -/
def Router.get (r : Router) (route : Route) (query : Option String) : Response :=
  match route with
  | .health => .json healthJson
  | .info => .json infoJson
  | .listing k =>
    match r.store.list k with
    | .ok ts => .text 200 (String.join (ts.map fun t => t.name ++ "\n"))
    | .error e => storeErrorResponse e
  | .topic k segment =>
    match decodeSegment segment with
    | .error resp => resp
    | .ok name =>
      match formatOf (query.getD "") with
      | .error msg => .text 400 ("Failed to deserialize query string: " ++ msg)
      | .ok format =>
        match topicNamed k name with
        | .error resp => resp
        | .ok t =>
          match r.store.read t with
          | .error e => storeErrorResponse e
          | .ok doc => if format = some "json" then .json doc.toJson else .text 200 (doc.encode r.store.key)

/-- Answers a line posted to a topic, and the server after it. -/
def Router.post (r : Router) (k : Kind) (segment : String) (body : List UInt8) : Response × Router :=
  match decodeSegment segment with
  | .error resp => (resp, r)
  | .ok name =>
    if body.length > r.maxBodyBytes then
      (.text 413 "Failed to buffer the request body: length limit exceeded", r)
    else
      match Text.utf8Error? body with
      | some e => (.text 400 ("Request body didn\x27t contain valid UTF-8: " ++ e.message), r)
      | none =>
        match topicNamed k name with
        | .error resp => (resp, r)
        | .ok t =>
          let (result, store) := r.store.append t (Text.textOfBytes body)
          let r' := { r with store := store }
          match result with
          | .ok doc => (.text 200 (doc.encode store.key), r')
          | .error e => (storeErrorResponse e, r')

/-- Answers a request, and the server after it. -/
def Router.handle (r : Router) (req : Request) : Response × Router :=
  let (path, query) := splitTarget req.target
  match routeOf path with
  | none => (.bare 404, r)
  | some route =>
    match req.method, route with
    | "GET", _ => (r.get route query, r)
    | "HEAD", _ => ({ r.get route query with body := [] }, r)
    | "POST", .topic k segment => r.post k segment req.body
    | _, _ => (.bare 405, r)

end ScoreKeeper.Server
