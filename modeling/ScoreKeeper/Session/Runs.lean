import ScoreKeeper.Session.Store
import ScoreKeeper.Session.CommandLine
import ScoreKeeper.Tool.Run

/-!
# ScoreKeeper — requests that run the tool

`cli` and `exec` run command lines of the tool, one after another, in a fresh empty working
directory, so that state left on the disk by one run is seen by the next.

* Files of the request, and of `files` runs, are written below the working directory first; a
  file is a text or `hex` bytes.
* With `server`, a server listens on a loopback address for the whole request, so listening there
  again fails.
* Placeholders in arguments and file texts stand for the request's own addresses and directory,
  and every string of the answer has them put back: the working directory for `{dir}`, the
  server's URL and address for `{server}` and `{server_addr}`, and a free loopback address for
  `127.0.0.1:{port}`.
* `cli` answers each command line with what it printed and the error's chain, or with the reading
  error; `exec` answers the exit status and both output streams, as a terminal sees them.
-/

namespace ScoreKeeper.Session

open Tool Net

/-- The working directory of a request's command lines. -/
def workDir : Path := ["tmp", ".tmpQk3vXz"]

/-- The port the request's server listens on. -/
def serverPort : UInt16 := 39411

/-- A port no one listens on. -/
def freePort : UInt16 := 40127

/-- The loopback address of the request's server. -/
def serverAddr : SocketAddr := .v4 ⟨127, 0, 0, 1⟩ serverPort

/-- The placeholders of a request and what they stand for, in the order they are expanded. -/
def placeholders (server : Bool) : List (String × String) :=
  (if server then
    [("\x7bserver\x7d", "http://" ++ serverAddr.display), ("\x7bserver_addr\x7d", serverAddr.display)]
  else []) ++
  [("127.0.0.1:\x7bport\x7d", (SocketAddr.v4 ⟨127, 0, 0, 1⟩ freePort).display),
   ("\x7bdir\x7d", Disk.showPath workDir)]

/-- A text with its placeholders expanded. -/
def expand (ps : List (String × String)) (s : String) : String :=
  ps.foldl (fun acc p => acc.replace p.1 p.2) s

/-- A text with the expanded values put back as placeholders. -/
def restore (ps : List (String × String)) (s : String) : String :=
  ps.foldl (fun acc p => acc.replace p.2 p.1) s

mutual

/-- A value with a function applied to every string in it, keys excepted. -/
def Json.mapText (f : String → String) : Json → Json
  | .str s => .str (f s)
  | .arr xs => .arr (mapTextItems f xs)
  | .obj ms => .obj (mapTextMembers f ms)
  | j => j

/-- Array items with a function applied to their strings. -/
def mapTextItems (f : String → String) : List Json → List Json
  | [] => []
  | x :: xs => Json.mapText f x :: mapTextItems f xs

/-- Object members with a function applied to their values' strings. -/
def mapTextMembers (f : String → String) : List (String × Json) → List (String × Json)
  | [] => []
  | (k, v) :: ms => (k, Json.mapText f v) :: mapTextMembers f ms

end

/-- The files of a field: each path with its bytes, a text's placeholders expanded. -/
def filesOf (ps : List (String × String)) (j : Json) (key : String) : Outcome (List (String × List UInt8)) := do
  match maybe j key with
  | none => pure []
  | some (.obj ms) => ms.mapM fun (path, v) => do
    match v with
    | .str t => pure (path, Text.utf8 (expand ps t))
    | .obj _ => pure (path, ← bytesOf v)
    | _ => throw (mistyped key "an object of texts or hex bytes")
  | some _ => throw (mistyped key "an object")

/-- The machine with files written below the working directory. -/
def plantFiles (m : Machine) (files : List (String × List UInt8)) : Outcome Machine := do
  let d ← files.foldlM (fun d (path, bytes) => plantFile d (m.resolve path) bytes) m.disk
  pure { m with disk := d }

/-- The answer of a command line that could not be read. -/
def readingErrorJson (exec : Bool) (e : Cli.CliError) : Json :=
  if exec then
    let code := e.kind.exitCode
    .obj [("exit_code", .nat code), ("stdout", .str (if code = 0 then e.text else "")),
      ("stderr", .str (if code = 0 then "" else e.text))]
  else .obj [("parse_error", cliErrorJson e)]

/-- The answer of a command line that ran. -/
def runJson (exec : Bool) (r : Run) : Json :=
  match exec, r.outcome with
  | false, .ok () => .obj [("ok", .bool true), ("stdout", .str r.stdout)]
  | false, .error e =>
    .obj [("ok", .bool false), ("stdout", .str r.stdout), ("error", .str e.head),
      ("chain", .arr (e.chain.map .str))]
  | true, .ok () => .obj [("exit_code", .nat 0), ("stdout", .str r.stdout), ("stderr", .str "")]
  | true, .error e => .obj [("exit_code", .nat 1), ("stdout", .str r.stdout), ("stderr", .str e.render)]

/-- One run of a request: a command line, more files, or a switch of the server's writes. -/
def toolStep (ps : List (String × String)) (exec : Bool) (m : Machine) (r : Json) :
    Outcome (Json × Machine) := do
  match ← wordsOf r "args" with
  | some words =>
    match Cli.Invocation.read (words.map (expand ps)) with
    | .error e => pure (readingErrorJson exec e, m)
    | .ok none => throw (.badInput "command line read without a subcommand")
    | .ok (some inv) =>
      let run := execute inv m
      pure (runJson exec run, run.machine)
  | none =>
    match maybe r "files", maybe r "server_fail_writes" with
    | some _, _ => pure (okTrue, ← plantFiles m (← filesOf ps r "files"))
    | none, some _ =>
      let _ ← needBool r "server_fail_writes"
      pure (okTrue, m)
    | none, none => throw (.badInput "a run needs args, files or server_fail_writes")

/-- The address a request's server listens on, if it has one. -/
def requestServer (j : Json) : Outcome (Option SocketAddr) := do
  if (← maybeBool j "server") != some true then return none
  let _ ← match maybe j "server_secret" with
    | some _ => keyOf j "server_secret"
    | none => keyOf j "secret"
  match ← maybeStr j "server_host" with
  | none | some "127.0.0.1" => pure (some serverAddr)
  | some "::1" => throw (osFailure .addrNotAvailable)
  | some other => throw (.badInput ("server_host " ++ Text.quoteString other ++ " is not a loopback address"))

/-- The `cli` and `exec` requests: command lines run one after another in a fresh working directory. -/
def toolSession (exec : Bool) (j : Json) : Outcome Json := do
  let server ← requestServer j
  let ps := placeholders server.isSome
  let runs ← needArr j "runs"
  let m0 : Machine := ⟨⟨[(["tmp"], .dir), (workDir, .dir)]⟩, workDir, server.toList⟩
  let m ← plantFiles m0 (← filesOf ps j "files")
  pure (Json.mapText (restore ps) (stepsAnswer (runSteps (toolStep ps exec) m runs)))

end ScoreKeeper.Session
