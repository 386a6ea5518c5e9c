import ScoreKeeper.Tool.Report
import ScoreKeeper.Client.Transport
import ScoreKeeper.Server.Config
import ScoreKeeper.Cli.Interface
import ScoreKeeper.Json.Write
import ScoreKeeper.Store.Document

/-!
# ScoreKeeper — running the tool

A command line of the tool runs on a machine: its disk, its working directory and the socket
addresses already listened on. A run prints to standard output and succeeds or fails with a
report, and may change the disk.

* A `--secret` must be odd; it signs and verifies lines in place of the default secret.
* `show`, `add` and `list` go through a transport: the server of `--server`, or the store in the
  directory of `--root` (default `data`). `show` prints a document's records, ranked, or as JSON;
  `add` merges one line and prints the document after it, at most ten records; `list` names the
  topics of a kind.
* `sign` prints the line of a score or of a pack entry.
* `verify` checks every line of a file and fails when one is refused.
* `serve` loads the configuration, applies `--bind`, `--root` and `--secret`, announces itself,
  creates its data directory if it can, and listens until it is stopped; listening fails when
  the address is privileged (a port below 1024), taken, or not one of the machine's own.
-/

namespace ScoreKeeper.Tool

open Cli Client Net Server

/-- Where the tool runs. -/
structure Machine where
  disk : Disk
  cwd : Path
  listening : List SocketAddr

/-- The path of a path text against the working directory. -/
def Machine.resolve (m : Machine) (text : String) : Path :=
  Disk.resolve m.cwd text

/-- Whether two socket addresses share an IP address. -/
def sameIp : SocketAddr → SocketAddr → Bool
  | .v4 a _, .v4 b _ => a = b
  | .v6 a _ _, .v6 b _ _ => a = b
  | _, _ => false

/-- Why listening on an address fails, if it does. -/
def Machine.bindError? (m : Machine) (a : SocketAddr) : Option OsError :=
  let port := a.port.toNat
  if 0 < port && port < 1024 then some .permissionDenied
  else if 0 < port && m.listening.any (fun l =>
      l.port = a.port && (sameIp l a || l.isUnspecified || a.isUnspecified)) then some .addrInUse
  else match a with
    | .v4 ip _ => if ip.a = 127 || ip = ⟨0, 0, 0, 0⟩ then none else some .addrNotAvailable
    | .v6 .. => if a.isUnspecified then none else some .addrNotAvailable

/-- What a run printed, how it ended, and the machine after it. -/
structure Run where
  stdout : String
  outcome : Except Report Unit
  machine : Machine

/-- A run that fails before printing anything. -/
def Run.failed (m : Machine) (r : Report) : Run :=
  ⟨"", .error r, m⟩

/-- The report of a client error, with context in front. -/
def clientReport (context : String) (e : ClientError) : Report :=
  (Report.ofChain e.chain).context context

/-- A text padded with spaces on the left to a width in characters. -/
def padLeft (width : Nat) (s : String) : String :=
  blank (width - s.length) ++ s

/-- A text padded with spaces on the right to a width in characters. -/
def padRight (width : Nat) (s : String) : String :=
  s ++ blank (width - s.length)

/-- A document's records as text: ranked scores, or bulleted pack entries, at most `limit`. -/
def documentText (doc : Document) (limit : Option Nat) : String :=
  let cut {α : Type} (xs : List α) : List α := match limit with
    | some n => xs.take n
    | none => xs
  match doc with
  | .leaderboard b =>
    (if b.entries.isEmpty then "No scores yet.\n" else "") ++
      String.join ((cut b.entries).zipIdx.map fun (e, i) =>
        padLeft 4 (toString (i + 1)) ++ ". " ++ padRight 16 e.name ++ " " ++ toString e.points.toInt ++ "\n")
  | .pack p =>
    (if p.entries.isEmpty then "No entries yet.\n" else "") ++
      String.join ((cut p.entries).map fun e => "  • " ++ e.text ++ "\n")

/-- A value as indented JSON on its own line. -/
def prettyLine (j : Json) : String :=
  Json.render .pretty j ++ "\n"

/-- The transport of a command: the server of `--server`, or the store under `--root`. -/
def Machine.transport (m : Machine) (o : Options) (key : ChecksumKey) : Except Report Transport :=
  match o.server with
  | some url => (Remote.make? url key).map .remote |>.mapError fun e => Report.ofChain e.chain
  | none => .ok (.inProcess ⟨key, .disk (m.resolve (o.root.getD "data")) m.disk⟩)

/-- The machine with the disk a transport left. -/
def Machine.after (m : Machine) : Transport → Machine
  | .inProcess ⟨_, .disk _ d⟩ => { m with disk := d }
  | _ => m

/-- The `show` request: prints a topic's document. -/
def showTopic (m : Machine) (t : Transport) (topic : Topic) (limit : Option Nat) (f : Format) : Run :=
  match t.fetch topic with
  | .error e => Run.failed m (clientReport ("reading " ++ topic.display) e)
  | .ok doc =>
    ⟨if f = .json then prettyLine doc.toJson else documentText doc limit, .ok (), m⟩

/-- The `add` request: merges a line into a topic and prints the document after it. -/
def addLine (m : Machine) (t : Transport) (topic : Topic) (line : String) (f : Format) : Run :=
  let (result, t') := t.submit topic line
  let m' := m.after t'
  match result with
  | .error e => Run.failed m' (clientReport ("appending to " ++ topic.display) e)
  | .ok doc =>
    let out := if f = .json then prettyLine doc.toJson
      else "✓ Accepted into " ++ topic.display ++ "\n" ++ documentText doc (some 10)
    ⟨out, .ok (), m'⟩

/-- The `list` request: names the topics of a kind. -/
def listTopics (m : Machine) (t : Transport) (packs : Bool) (f : Format) : Run :=
  let kind : Kind := if packs then .pack else .leaderboard
  match t.list kind with
  | .error e => Run.failed m (clientReport "listing topics" e)
  | .ok topics =>
    let out := if f = .json then prettyLine (.arr (topics.map fun tp => .str tp.display))
      else (if topics.isEmpty then "No " ++ kind.pfx ++ " topics.\n" else "") ++
        String.join (topics.map fun tp => "  " ++ tp.display ++ "\n")
    ⟨out, .ok (), m⟩

/-- The `sign` request: the encoded line of a score or of a pack entry. -/
def signLine (key : ChecksumKey) (name : Option String) (score : Option Int32) (text : Option String) :
    Except Report String :=
  match name, score, text with
  | some n, some s, none => (Score.make? n s).map (·.encodeLine key) |>.mapError fun e => .plain e.message
  | none, none, some t => (Note.make? t).map (·.encodeLine key) |>.mapError fun e => .plain e.message
  | _, _, _ => .error (.plain "pass either --name and --score, or --text")

/-- The verdict on a file's lines: how many verify and which lines are refused. -/
def verifyText {α : Type} [LineRecord α] (key : ChecksumKey) (text : String) :
    Nat × List RejectedLine :=
  let r : ScoreKeeper.Report α := inspect key text
  (r.entries.length, r.rejected)

/-- The `verify` request: checks every line of a file. -/
def verifyFile (m : Machine) (key : ChecksumKey) (file : String) (pack : Bool) (f : Format) : Run :=
  match m.disk.readFile (m.resolve file) with
  | .error e => Run.failed m ⟨"reading " ++ file, [e.message]⟩
  | .ok bytes =>
    let text := Text.textOfBytes bytes
    let (accepted, rejected) :=
      if pack then verifyText (α := Note) key text else verifyText (α := Score) key text
    let out := if f = .json then
        Json.render .compact (.obj [("accepted", .nat accepted),
          ("rejected", .arr (rejected.map fun r =>
            .obj [("error", .str r.error.message), ("line", .nat r.lineNo)]))]) ++ "\n"
      else if rejected.isEmpty then "✓ " ++ toString accepted ++ " lines verified\n"
      else toString accepted ++ " valid, " ++ toString rejected.length ++ " invalid\n" ++
        String.join (rejected.map fun r =>
          "  line " ++ toString r.lineNo ++ ": " ++ r.content ++ " (" ++ r.error.message ++ ")\n")
    let outcome := if rejected.isEmpty then .ok ()
      else .error (.plain (toString rejected.length ++ " of " ++ toString (accepted + rejected.length) ++
        " lines failed verification"))
    ⟨out, outcome, m⟩

/-- The configuration `serve` starts from: the file of `--config`, or the defaults. -/
def Machine.loadConfig (m : Machine) (config : Option String) : Except Report ServerConfig :=
  match config with
  | none => .ok ServerConfig.default
  | some path =>
    let context := "loading config " ++ path
    match m.disk.readFile (m.resolve path) with
    | .error e => .error ⟨context, ["I/O error: " ++ e.message, e.message]⟩
    | .ok bytes =>
      if !Text.isWellFormed bytes then
        .error ⟨context, ["I/O error: stream did not contain valid UTF-8", "stream did not contain valid UTF-8"]⟩
      else match ServerConfig.fromToml (Text.textOfBytes bytes) with
        | .error msg => .error ⟨context, [configMessage msg]⟩
        | .ok c => .ok c

/-- The configuration of `serve` after its options. -/
def Machine.serveConfig (m : Machine) (bind config root : Option String) (secret : Option UInt64) :
    Except Report ServerConfig := do
  let c ← m.loadConfig config
  let c ← match bind with
    | none => pure c
    | some b =>
      match SocketAddr.parse? b with
      | some a => pure { c with bindAddr := a }
      | none => throw ⟨"invalid bind address " ++ Text.quoteString b, [addrSyntaxMessage]⟩
  let c := match root with
    | some r => { c with dataRoot := r }
    | none => c
  let c := match secret with
    | some s => { c with secret := s }
    | none => c
  match c.key with
  | .error msg => throw (.plain (configMessage msg))
  | .ok _ => pure c

/-- The `serve` request: starts the server and listens until stopped. -/
def serve (m : Machine) (bind config root : Option String) (secret : Option UInt64) : Run :=
  match m.serveConfig bind config root secret with
  | .error r => Run.failed m r
  | .ok c =>
    let out := "highscore server on " ++ c.bindAddr.display ++ " (root: " ++ c.dataRoot ++ ")\n"
    let disk := match m.disk.createDirAll (m.resolve c.dataRoot) with
      | .ok d => d
      | .error _ => m.disk
    let m' := { m with disk := disk }
    match m'.bindError? c.bindAddr with
    | some e => ⟨out, .error ⟨"I/O error: " ++ e.message, [e.message]⟩, m'⟩
    | none => ⟨out, .ok (), m'⟩

/-- The checksum key of `--secret`, or the default one. -/
def keyOfSecret : Option UInt64 → Except Report ChecksumKey
  | none => .ok ChecksumKey.default
  | some s => (ChecksumKey.make? s).mapError fun e => (Report.ofChain e.chain).context "invalid --secret"

/-- Runs a command line of the tool on a machine. -/
def execute (inv : Invocation) (m : Machine) : Run :=
  match keyOfSecret inv.options.secret with
  | .error r => Run.failed m r
  | .ok key =>
    let o := inv.options
    let withTransport (k : Transport → Run) : Run :=
      match m.transport o key with
      | .error r => Run.failed m r
      | .ok t => k t
    match inv.command with
    | .serve bind config => serve m bind config o.root o.secret
    | .show topic limit => withTransport fun t => showTopic m t topic limit o.format
    | .add topic line => withTransport fun t => addLine m t topic line o.format
    | .list packs => withTransport fun t => listTopics m t packs o.format
    | .sign name score text =>
      match signLine key name score text with
      | .ok line => ⟨line ++ "\n", .ok (), m⟩
      | .error r => Run.failed m r
    | .verify file pack => verifyFile m key file pack o.format

end ScoreKeeper.Tool
