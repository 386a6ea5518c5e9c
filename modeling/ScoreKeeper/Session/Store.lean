import ScoreKeeper.Session.Records
import ScoreKeeper.Store.TopicStore
import ScoreKeeper.Text.Hex

/-!
# ScoreKeeper — requests on a topic store

The `store` request runs steps on a fresh store: in memory, or on a disk whose store root is an
empty directory. Besides the store's own operations, steps can plant bytes under a topic without
the codec, make the memory shelf fail its writes, and plant files and directories below the disk
root, so that reads, appends and listings meet foreign entries.
-/

namespace ScoreKeeper.Session

/-- The kind of a store error. -/
def StoreError.kindName : StoreError → String
  | .rejected e => "Rejected." ++ e.kindName
  | .io _ => "Io"

/-- A store error as a failure. -/
def StoreError.toFailure (e : StoreError) : Failure :=
  ⟨StoreError.kindName e, e.message, []⟩

/-- Lifts a store operation into an answer. -/
def liftStore {α : Type} (r : Except StoreError α) : Outcome α :=
  r.mapError StoreError.toFailure

/-- A topic read from a field with the topic text grammar. -/
def topicOf (j : Json) (key : String) : Outcome Topic := do
  liftField (Topic.parse (← needStr j key))

/-- Bytes as an answer: `raw` when they are UTF-8, else `raw_hex`. -/
def rawJson (bytes : List UInt8) : List (String × Json) :=
  if Text.isWellFormed bytes then [("raw", .str (Text.textOfBytes bytes))]
  else [("raw_hex", .str (Text.hexOfBytes bytes))]

/-- The text of a store's debug form. -/
def storeDebug (s : TopicStore) : String :=
  "TopicStore \x7b checksummer: Checksummer \x7b secret: " ++ toString s.key.secret.toNat ++ " \x7d, .. \x7d"

/-- Whether a relative path text has only plain components. -/
def isPlainPath (text : String) : Bool :=
  !text.startsWith "/" && ((text.toList.splitOn '/').map String.ofList).all fun c => c ≠ "." && c ≠ ".."

/-- The components of a plain path below a root. -/
def plainPath (root : Path) (text : String) : Outcome Path :=
  if isPlainPath text then pure (Disk.resolve root text)
  else throw (.badInput ("path " ++ Text.quoteString text ++ " must be relative and plain"))

/-- A failure of the session's own file handling. -/
def osFailure (e : OsError) : Failure :=
  ⟨"DriverIo", e.message, []⟩

/-- Writes a file below a root, creating the directories above it. -/
def plantFile (d : Disk) (p : Path) (bytes : List UInt8) : Outcome Disk := do
  let d ← (d.createDirAll p.dropLast).mapError osFailure
  (d.writeFile p bytes).mapError osFailure

/-- The answer `{"ok": true}`. -/
def okTrue : Json :=
  .obj [("ok", .bool true)]

/-- One step shared by both backends. -/
def storeStep (s : TopicStore) (o : Json) (op : String) : Outcome (Json × TopicStore) := do
  match op with
  | "read" =>
    let t ← topicOf o "topic"
    pure (.obj [("document", (← liftStore (s.read t)).toJson)], s)
  | "read_text" =>
    let t ← topicOf o "topic"
    pure (.obj [("text", .str ((← liftStore (s.read t)).encode s.key))], s)
  | "summary" =>
    let t ← topicOf o "topic"
    pure (documentSummary (← liftStore (s.read t)), s)
  | "append" =>
    let t ← topicOf o "topic"
    let raw ← needStr o "raw"
    let (r, s') := s.append t raw
    pure (.obj [("document", (← liftStore r).toJson)], s')
  | "list" =>
    let k ← kindOf o "kind"
    let ts ← liftStore (s.list k)
    pure (.obj [("topics", .arr (ts.map fun t => .str t.display))], s)
  | "raw" =>
    let t ← topicOf o "topic"
    match ← liftStore (s.backend.read t) with
    | some b => pure (.obj (rawJson b), s)
    | none => pure (.obj [("raw", .null)], s)
  | "store_debug" =>
    pure (.obj [("debug", .str (storeDebug s)), ("secret", .str (toString s.key.secret.toNat))], s)
  | other =>
    match s.backend with
    | .shelf sh =>
      match other with
      | "insert_raw" =>
        let t ← topicOf o "topic"
        let bytes ← bytesOf o
        pure (okTrue, { s with backend := .shelf (sh.insert t bytes) })
      | "set_fail_writes" =>
        let fail ← needBool o "fail"
        pure (okTrue, { s with backend := .shelf { sh with failWrites := fail } })
      | "write_count" =>
        pure (.obj [("write_count", .nat sh.writes), ("documents", .nat sh.docs.length)], s)
      | "backend_debug" =>
        pure (.obj [("debug", .str ("InMemoryBackend \x7b document_count: " ++ toString sh.docs.length ++ " \x7d")),
          ("is_empty", .bool sh.docs.isEmpty)], s)
      | _ => throw (.badInput ("unknown store op " ++ Text.quoteString other))
    | .disk root d =>
      match other with
      | "insert_raw" =>
        let t ← topicOf o "topic"
        let bytes ← bytesOf o
        let d' ← plantFile d (Backend.topicPath root t) bytes
        pure (okTrue, { s with backend := .disk root d' })
      | "put_file" =>
        let p ← plainPath root (← needStr o "path")
        let bytes ← bytesOf o
        let d' ← plantFile d p bytes
        pure (okTrue, { s with backend := .disk root d' })
      | "mkdir" =>
        let p ← plainPath root (← needStr o "path")
        let d' ← (d.createDirAll p).mapError osFailure
        pure (okTrue, { s with backend := .disk root d' })
      | "backend_debug" => pure (.obj [("root_is_store_root", .bool true)], s)
      | _ => throw (.badInput ("unknown store op " ++ Text.quoteString other))

/-- The root of a disk store: a fresh directory. -/
def storeRoot : Path := ["tmp", "store"]

/-- The `store` request: steps on a fresh store. -/
def storeSession (j : Json) : Outcome Json := do
  let backend ← match ← maybeStr j "backend" with
    | none | some "memory" => pure (Backend.shelf Shelf.empty)
    | some "fs" => pure (Backend.disk storeRoot ⟨[(["tmp"], .dir), (storeRoot, .dir)]⟩)
    | some other => throw (.badInput ("unknown backend " ++ Text.quoteString other))
  let key ← keyOf j "secret"
  let ops ← needArr j "ops"
  let step := fun (s : TopicStore) (o : Json) => do storeStep s o (← needStr o "op")
  pure (stepsAnswer (runSteps step ⟨key, backend⟩ ops))

end ScoreKeeper.Session
