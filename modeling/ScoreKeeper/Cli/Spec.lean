/-!
# ScoreKeeper — command-line specifications

A command line is read against a specification: a root command with its parameters and the
subcommands under it, each with parameters of its own. A parameter is an option (`--long`,
maybe `-s`) that takes one value, a flag that takes none, or a positional value; parameters
marked global are given to every subcommand too, after its own. `Param.display` is how messages
name a parameter: `--bind <BIND>`, `--verbose`, `<TOPIC>`.
-/

namespace ScoreKeeper.Cli

/-- What a parameter does when it is given. -/
inductive Action where
  | set
  | setTrue
  | append
  | help
  | version
  deriving DecidableEq, Repr

/-- The rule a value must pass. -/
inductive ValueRule where
  | text
  | path
  | unsigned
  | signed32
  | topic
  | choice (values : List String)
  deriving DecidableEq, Repr

/-- A parameter of a command. -/
structure Param where
  id : String
  long : Option String := none
  short : Option Char := none
  index : Option Nat := none
  valueName : String := ""
  action : Action := .set
  rule : ValueRule := .text
  required : Bool := false
  help : String := ""
  defaultValue : Option String := none
  global : Bool := false
  conflicts : List String := []
  requires : List String := []
  negativeNumbers : Bool := false
  deriving Repr

namespace Param

/-- Whether it takes values. -/
def takesValue (p : Param) : Bool :=
  p.action = .set || p.action = .append

/-- Whether it is a positional value. -/
def isPositional (p : Param) : Bool :=
  p.index.isSome

/-- The value placeholder: `<NAME>`, or `[NAME]` for an optional positional, with `...` after a
positional that takes many. -/
def valueText (p : Param) (required : Bool) : String :=
  let name := if p.isPositional && (p.action = .append || !required) then "[" ++ p.valueName ++ "]"
    else "<" ++ p.valueName ++ ">"
  if p.isPositional && p.action = .append then name ++ "..." else name

/-- The text after the name: ` <NAME>` for an option, the placeholder for a positional. -/
def suffix (p : Param) (required : Bool) : String :=
  if p.isPositional then p.valueText required
  else if p.takesValue then " " ++ p.valueText required
  else ""

/-- The name and placeholder, as a usage line writes it. -/
def styled (p : Param) (required : Bool) : String :=
  let name := match p.long, p.short with
    | some l, _ => "--" ++ l
    | none, some s => "-" ++ s.toString
    | none, none => ""
  name ++ p.suffix required

/-- How messages name the parameter. -/
def display (p : Param) : String :=
  p.styled p.required

end Param

/-- A command: its parameters (own, then global ones it takes, then built-in ones) and the names
of its subcommands. -/
structure Cmd where
  name : String
  path : String
  about : String
  params : List Param
  subcommands : List String
  subcommandRequired : Bool
  helpWhenEmpty : Bool
  helpFlag : Bool
  version : Option String
  deriving Repr

namespace Cmd

/-- The parameter with an identity. -/
def find? (c : Cmd) (id : String) : Option Param :=
  c.params.find? fun p => p.id = id

/-- The parameter with a long name. -/
def findLong? (c : Cmd) (l : String) : Option Param :=
  c.params.find? fun p => p.long = some l

/-- The parameter with a short name. -/
def findShort? (c : Cmd) (s : Char) : Option Param :=
  c.params.find? fun p => p.short = some s

/-- The positional value at a place. -/
def positionalAt? (c : Cmd) (i : Nat) : Option Param :=
  c.params.find? fun p => p.index = some i

/-- The positional values, by place. -/
def positionals (c : Cmd) : List Param :=
  (c.params.filter Param.isPositional).mergeSort fun a b => a.index.getD 0 ≤ b.index.getD 0

/-- Whether it takes positional values. -/
def hasPositionals (c : Cmd) : Bool :=
  c.params.any Param.isPositional

/-- The long names, in order. -/
def longs (c : Cmd) : List String :=
  c.params.filterMap (·.long)

/-- The parameters that must be given, in order. -/
def requiredIds (c : Cmd) : List String :=
  (c.params.filter (·.required)).map (·.id)

end Cmd

/-- A program: its root command and its subcommands. -/
structure Program where
  root : Cmd
  subs : List Cmd
  deriving Repr

/-- The subcommand of a name. -/
def Program.sub? (p : Program) (name : String) : Option Cmd :=
  p.subs.find? fun c => c.name = name

end ScoreKeeper.Cli
