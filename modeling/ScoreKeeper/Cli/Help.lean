import ScoreKeeper.Cli.Usage

/-!
# ScoreKeeper — help text

A command's help: its one line, a blank line, its full usage, then its subcommands, its
positional values and its options, each section under a heading. In a section every entry's
text starts in one column: two spaces past the longest entry. An option's entry shows `-s, --long`
or four spaces and `--long`, and its text ends with its default and its allowed values.
-/

namespace ScoreKeeper.Cli

/-- A run of spaces. -/
def spaces (n : Nat) : String :=
  String.ofList (List.replicate n ' ')

/-- The default and the allowed values of a parameter, as its help shows them. -/
def specText (p : Param) : String :=
  let dflt := match p.defaultValue with
    | some v => if p.action = .set then ["[default: " ++ v ++ "]"] else []
    | none => []
  let allowed := match p.rule with
    | .choice vs => ["[possible values: " ++ ", ".intercalate vs ++ "]"]
    | _ => []
  " ".intercalate (dflt ++ allowed)

/-- The text of a parameter's entry. -/
def entryText (p : Param) : String :=
  let spec := specText p
  if spec.isEmpty then p.help else if p.help.isEmpty then spec else p.help ++ " " ++ spec

/-- The width an option's entry takes, counted for alignment. -/
def optionWidth (p : Param) : Nat :=
  p.display.length + 4

/-- One option's line. -/
def optionLine (longest : Nat) (p : Param) : String :=
  let shortPart := match p.short with
    | some s => "-" ++ s.toString
    | none => if p.long.isSome then "    " else ""
  let longPart := match p.long with
    | some l => (if p.short.isSome then ", " else "") ++ "--" ++ l
    | none => ""
  let pad := (if p.long.isSome then longest + 2 else longest + 6) - optionWidth p
  "  " ++ shortPart ++ longPart ++ p.suffix p.required ++ spaces pad ++ entryText p

/-- One positional value's line. -/
def positionalLine (longest : Nat) (p : Param) : String :=
  "  " ++ p.suffix p.required ++ spaces (longest + 2 - p.display.length) ++ entryText p

/-- The section of subcommands. -/
def commandsSection (p : Program) (c : Cmd) : List String :=
  let longest := c.subcommands.foldl (fun m n => max m n.length) 2
  c.subcommands.map fun n =>
    let about := ((p.sub? n).map (·.about)).getD ""
    "  " ++ n ++ spaces (longest + 2 - n.length) ++ about

/-- The help of a command. -/
def helpText (p : Program) (c : Cmd) : String :=
  let poss := c.positionals
  let opts := c.params.filter fun q => !q.isPositional
  let posLongest := poss.foldl (fun m q => max m q.display.length) 2
  let optLongest := opts.foldl (fun m q =>
    if q.takesValue || q.long.isSome || q.short.isNone then max m (optionWidth q) else m) 2
  let sections :=
    (if c.subcommands.isEmpty then [] else ["Commands:\n" ++ "\n".intercalate (commandsSection p c)])
    ++ (if poss.isEmpty then [] else ["Arguments:\n" ++ "\n".intercalate (poss.map (positionalLine posLongest))])
    ++ (if opts.isEmpty then [] else ["Options:\n" ++ "\n".intercalate (opts.map (optionLine optLongest))])
  let body := c.about ++ "\n\nUsage: " ++ fullUsage c c.requiredIds ++ "\n\n" ++ "\n\n".intercalate sections
  String.ofList (body.toList.reverse.dropWhile Char.isWhitespace).reverse ++ "\n"

/-- The version line. -/
def versionText (c : Cmd) : String :=
  c.path ++ " " ++ (c.version.getD "") ++ "\n"

end ScoreKeeper.Cli
