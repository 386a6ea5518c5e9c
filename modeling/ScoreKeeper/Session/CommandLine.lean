import ScoreKeeper.Session.Fields
import ScoreKeeper.Cli.Interface

/-!
# ScoreKeeper — requests on command lines

`cli_parse` reads a command line of the tool without running it, optionally updates the result
with a second command line, and probes names for subcommands. A command line that cannot run
answers its error's kind, exit status and text.
-/

namespace ScoreKeeper.Session

open Cli

/-- The answer of a command-line error. -/
def cliErrorJson (e : CliError) : Json :=
  .obj [("kind", .str e.kind.label), ("exit_code", .nat e.kind.exitCode), ("text", .str e.text)]

/-- The fields of a subcommand. -/
def commandArgs : Cli.Command → Json
  | .serve b c => .obj [("bind", Json.optStr b), ("config", Json.optStr c)]
  | .show t l => .obj [("topic", .str t.display), ("limit", (l.map Json.nat).getD .null)]
  | .add t l => .obj [("topic", .str t.display), ("line", .str l)]
  | .list p => .obj [("packs", .bool p)]
  | .sign n s t => .obj [("name", Json.optStr n), ("score", (s.map fun v => Json.int v.toInt).getD .null),
      ("text", Json.optStr t)]
  | .verify f p => .obj [("file", .str f), ("pack", .bool p)]

/-- The answer describing an invocation. -/
def invocationJson (i : Invocation) : Json :=
  .obj [("verbose", .bool i.options.verbose),
    ("format", .str (if i.options.format = .json then "Json" else "Text")),
    ("root", Json.optStr i.options.root),
    ("secret", Json.optStr (i.options.secret.map fun s => toString s.toNat)),
    ("server", Json.optStr i.options.server),
    ("command", .str i.command.name), ("args", commandArgs i.command)]

/-- A list of strings from a field. -/
def wordsOf (j : Json) (key : String) : Outcome (Option (List String)) := do
  match ← maybeArr j key with
  | none => pure none
  | some xs => some <$> xs.mapM fun x => match x with
    | .str s => pure s
    | _ => throw (mistyped key "an array of strings")

/-- The `cli_parse` request: reads, updates and probes command lines. -/
def commandLineSession (j : Json) : Outcome Json := do
  let args ← wordsOf j "args"
  let update ← wordsOf j "update"
  let probe ← wordsOf j "probe"
  let parsed : List (String × Json) ← match args with
    | none => pure []
    | some ws =>
      match Invocation.read ws with
      | .error e => pure [("parse_error", cliErrorJson e)]
      | .ok none => throw (.badInput "command line read without a subcommand")
      | .ok (some inv) =>
        let upd : List (String × Json) ← match update with
          | none => pure []
          | some us =>
            match inv.update us with
            | .error e => pure [("update_error", cliErrorJson e)]
            | .ok none => throw (.badInput "command line updated without a subcommand")
            | .ok (some inv') => pure [("updated", invocationJson inv')]
        pure ([("parsed", invocationJson inv)] ++ upd)
  let probed := match probe with
    | none => []
    | some names => [("has_subcommand", Json.arr (names.map fun n => .arr [.str n, .bool (hasSubcommand n)]))]
  pure (.obj (parsed ++ probed))

end ScoreKeeper.Session
