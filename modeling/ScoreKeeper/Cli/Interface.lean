import ScoreKeeper.Cli.Parse

/-!
# ScoreKeeper — the command line of the tool

The tool `highscore` takes the global options `--verbose` (`-v`), `--format text|json`, `--root`,
`--secret` and `--server` (which excludes `--root`) and one of six subcommands: `serve`, `show`,
`add`, `list`, `sign` and `verify`. `Invocation` is a command line as the tool uses it; it is
built from what `readCommandLine` read, and a second command line can update it: flags and
options with defaults are reset, options without defaults keep their value unless given, the
same subcommand keeps the fields it is not given and another subcommand replaces them all.
-/

namespace ScoreKeeper.Cli

/-- The options every command takes. -/
def globalParams : List Param :=
  [{ id := "verbose", long := some "verbose", short := some 'v', action := .setTrue, global := true,
     defaultValue := some "false" },
   { id := "format", long := some "format", valueName := "FORMAT", rule := .choice ["text", "json"],
     defaultValue := some "text", global := true },
   { id := "root", long := some "root", valueName := "ROOT", rule := .path, global := true,
     help := "Data directory (default: \"data\", or the config file's data_root)" },
   { id := "secret", long := some "secret", valueName := "SECRET", rule := .unsigned, global := true,
     help := "Checksum secret shared with clients (must be odd)" },
   { id := "server", long := some "server", valueName := "SERVER", global := true, conflicts := ["root"],
     help := "Talk to a running server (e.g. http://127.0.0.1:10000) instead of the local data directory" }]

/-- The `--help` flag (`-h`). -/
def helpParam : Param :=
  { id := "help", long := some "help", short := some 'h', action := .help, help := "Print help" }

/-- The `--version` flag (`-V`). -/
def versionParam : Param :=
  { id := "version", long := some "version", short := some 'V', action := .version, help := "Print version" }

/-- A subcommand with its own parameters, then the global ones and the help flag. -/
def subcommand (name about : String) (own : List Param) : Cmd :=
  { name := name, path := "highscore " ++ name, about := about, params := own ++ globalParams ++ [helpParam],
    subcommands := [], subcommandRequired := false, helpWhenEmpty := false, helpFlag := true,
    version := none }

/-- The subcommands, in help order. -/
def subcommands : List Cmd :=
  [subcommand "serve" "Start the HTTP server"
    [{ id := "bind", long := some "bind", valueName := "BIND" },
     { id := "config", long := some "config", valueName := "CONFIG", rule := .path,
       help := "TOML configuration file" }],
   subcommand "show" "Print a topic's document"
    [{ id := "topic", index := some 1, valueName := "TOPIC", rule := .topic, required := true,
       help := "`name`, `highscore/name` or `pack/name`" },
     { id := "limit", long := some "limit", short := some 'n', valueName := "LIMIT", rule := .unsigned }],
   subcommand "add" "Verify and merge one encoded entry into a topic"
    [{ id := "topic", index := some 1, valueName := "TOPIC", rule := .topic, required := true },
     { id := "line", index := some 2, valueName := "LINE", required := true,
       help := "Encoded entry line, as produced by `highscore sign`" }],
   subcommand "list" "List topics that have a document"
    [{ id := "packs", long := some "packs", action := .setTrue, defaultValue := some "false",
       help := "List pack topics instead of leaderboards" }],
   subcommand "sign" "Print the encoded, checksummed line for an entry"
    [{ id := "name", long := some "name", valueName := "NAME", requires := ["score"], conflicts := ["text"] },
     { id := "score", long := some "score", valueName := "SCORE", rule := .signed32, requires := ["name"],
       negativeNumbers := true },
     { id := "text", long := some "text", valueName := "TEXT", help := "Pack entry text" }],
   subcommand "verify" "Check every line of a document file"
    [{ id := "file", index := some 1, valueName := "FILE", rule := .path, required := true },
     { id := "pack", long := some "pack", action := .setTrue, defaultValue := some "false",
       help := "Treat the file as a pack document" }]]

/-- The `help` subcommand, which names the commands to describe. -/
def helpCommand : Cmd :=
  { name := "help", path := "highscore help",
    about := "Print this message or the help of the given subcommand(s)",
    params := [{ id := "subcommand", index := some 1, valueName := "COMMAND", action := .append,
                 help := "Print help for the subcommand(s)" }],
    subcommands := [], subcommandRequired := false, helpWhenEmpty := false, helpFlag := false,
    version := none }

/-- The tool's command line. When a command line only updates a former one, no subcommand is
required. -/
def program (forUpdate : Bool) : Program :=
  { root := { name := "highscore", path := "highscore", about := "Checksummed leaderboards and packs over HTTP",
              params := globalParams ++ [helpParam, versionParam],
              subcommands := subcommands.map (·.name) ++ ["help"],
              subcommandRequired := !forUpdate, helpWhenEmpty := !forUpdate, helpFlag := true,
              version := some "0.1.0" },
    subs := subcommands ++ [helpCommand] }

/-- Whether a name is one of the tool's subcommands (`help` is not one of them). -/
def hasSubcommand (name : String) : Bool :=
  (subcommands.map (·.name)).contains name

/-- The output formats. -/
inductive Format where
  | text
  | json
  deriving DecidableEq, Repr

/-- The global options. -/
structure Options where
  verbose : Bool
  format : Format
  root : Option String
  secret : Option UInt64
  server : Option String

/-- What the tool is asked to do. -/
inductive Command where
  | serve (bind config : Option String)
  | show (topic : Topic) (limit : Option Nat)
  | add (topic : Topic) (line : String)
  | list (packs : Bool)
  | sign (name : Option String) (score : Option Int32) (text : Option String)
  | verify (file : String) (pack : Bool)

/-- The subcommand's name. -/
def Command.name : Command → String
  | .serve .. => "serve"
  | .show .. => "show"
  | .add .. => "add"
  | .list _ => "list"
  | .sign .. => "sign"
  | .verify .. => "verify"

/-- A command line as the tool uses it. -/
structure Invocation where
  options : Options
  command : Command

/-- Whether a flag was set. -/
def flagOf (m : Matcher) (id : String) : Bool :=
  m.value? id = some "true"

/-- A topic value, already checked. -/
def topicOf? (m : Matcher) (id : String) : Option Topic :=
  (m.value? id).bind fun v => (Topic.parse v).toOption

/-- A number value, already checked. -/
def natOf? (m : Matcher) (id : String) : Option Nat :=
  (m.value? id).bind fun v => (Text.readU64 v).toOption

/-- A signed value, already checked. -/
def int32Of? (m : Matcher) (id : String) : Option Int32 :=
  (m.value? id).bind fun v => (Text.readI64 v).toOption.map Int32.ofInt

/-- A value if given, else a former one. -/
def keep {α : Type} (m : Matcher) (id : String) (read : Option α) (old : α) : α :=
  if m.has id then read.getD old else old

/-- The options read, over former ones for those not given. -/
def Options.updated (m : Matcher) (old : Options) : Options :=
  { verbose := flagOf m "verbose",
    format := if m.value? "format" = some "json" then .json else .text,
    root := keep m "root" (some (m.value? "root")) old.root,
    secret := keep m "secret" (some ((m.value? "secret").bind fun v => (Text.readU64 v).toOption.map UInt64.ofNat)) old.secret,
    server := keep m "server" (some (m.value? "server")) old.server }

/-- The options before any command line. -/
def Options.blank : Options :=
  ⟨false, .text, none, none, none⟩

/-- The subcommand read. -/
def Command.ofMatcher? (name : String) (m : Matcher) : Option Command :=
  match name with
  | "serve" => some (.serve (m.value? "bind") (m.value? "config"))
  | "show" => (topicOf? m "topic").map fun t => .show t (natOf? m "limit")
  | "add" => do pure (.add (← topicOf? m "topic") (← m.value? "line"))
  | "list" => some (.list (flagOf m "packs"))
  | "sign" => some (.sign (m.value? "name") (int32Of? m "score") (m.value? "text"))
  | "verify" => (m.value? "file").map fun f => .verify f (flagOf m "pack")
  | _ => none

/-- The subcommand read over a former one: the same subcommand keeps the fields not given. -/
def Command.updated? (name : String) (m : Matcher) (old : Command) : Option Command :=
  match old with
  | .serve b c =>
    if name = "serve" then some (.serve (keep m "bind" (some (m.value? "bind")) b) (keep m "config" (some (m.value? "config")) c))
    else Command.ofMatcher? name m
  | .show t l =>
    if name = "show" then some (.show (keep m "topic" (topicOf? m "topic") t) (keep m "limit" (some (natOf? m "limit")) l))
    else Command.ofMatcher? name m
  | .add t l =>
    if name = "add" then some (.add (keep m "topic" (topicOf? m "topic") t) (keep m "line" (m.value? "line") l))
    else Command.ofMatcher? name m
  | .list _ => if name = "list" then some (.list (flagOf m "packs")) else Command.ofMatcher? name m
  | .sign n s t =>
    if name = "sign" then
      some (.sign (keep m "name" (some (m.value? "name")) n) (keep m "score" (some (int32Of? m "score")) s)
        (keep m "text" (some (m.value? "text")) t))
    else Command.ofMatcher? name m
  | .verify f _ =>
    if name = "verify" then some (.verify (keep m "file" (m.value? "file") f) (flagOf m "pack"))
    else Command.ofMatcher? name m

/-- The identities of the global options. -/
def globalIds : List String :=
  globalParams.map (·.id)

/-- Reads a command line into an invocation. -/
def Invocation.read (words : List String) : Except CliError (Option Invocation) := do
  let rd := (← readCommandLine (program false) words).spread globalIds
  pure (rd.sub.bind fun (name, sm) =>
    (Command.ofMatcher? name sm).map fun c => ⟨Options.updated rd.root Options.blank, c⟩)

/-- Updates an invocation with a second command line. -/
def Invocation.update (old : Invocation) (words : List String) : Except CliError (Option Invocation) := do
  let rd := (← readCommandLine (program true) words).spread globalIds
  let command := match rd.sub with
    | some (name, sm) => Command.updated? name sm old.command
    | none => some old.command
  pure (command.map fun c => ⟨Options.updated rd.root old.options, c⟩)

end ScoreKeeper.Cli
