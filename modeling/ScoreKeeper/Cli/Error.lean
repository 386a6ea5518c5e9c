import ScoreKeeper.Cli.Spec

/-!
# ScoreKeeper — command-line errors

A command line that cannot run ends with an error of a kind and its printed text. The text of a
true error is `error: ` and the message, then any tips (`  tip: ...`) after a blank line, then
the usage line after a blank line, then the pointer to `--help`. Help and version requests are
errors of their own kinds whose text is what they print; they alone exit with status 0, on
standard output.
-/

namespace ScoreKeeper.Cli

/-- The kinds of command-line errors. -/
inductive ErrorKind where
  | displayHelp
  | displayVersion
  | displayHelpOnMissing
  | missingRequiredArgument
  | missingSubcommand
  | argumentConflict
  | valueValidation
  | invalidValue
  | unknownArgument
  | invalidSubcommand
  | tooManyValues
  deriving DecidableEq, Repr

/-- The kind's name. -/
def ErrorKind.label : ErrorKind → String
  | .displayHelp => "DisplayHelp"
  | .displayVersion => "DisplayVersion"
  | .displayHelpOnMissing => "DisplayHelpOnMissingArgumentOrSubcommand"
  | .missingRequiredArgument => "MissingRequiredArgument"
  | .missingSubcommand => "MissingSubcommand"
  | .argumentConflict => "ArgumentConflict"
  | .valueValidation => "ValueValidation"
  | .invalidValue => "InvalidValue"
  | .unknownArgument => "UnknownArgument"
  | .invalidSubcommand => "InvalidSubcommand"
  | .tooManyValues => "TooManyValues"

/-- Whether the text goes to standard output with status 0. -/
def ErrorKind.isRequest : ErrorKind → Bool
  | .displayHelp | .displayVersion => true
  | _ => false

/-- The exit status. -/
def ErrorKind.exitCode (k : ErrorKind) : Nat :=
  if k.isRequest then 0 else 2

/-- A command line that cannot run. -/
structure CliError where
  kind : ErrorKind
  text : String
  deriving Repr

/-- The closing pointer to the help. -/
def tryHelp (c : Cmd) : String :=
  if c.helpFlag then "\n\nFor more information, try '--help'.\n"
  else if !c.subcommands.isEmpty then "\n\nFor more information, try 'help'.\n"
  else "\n"

/-- An error's text: the message, the tips, the usage line and the pointer to the help. -/
def errorText (c : Cmd) (message : String) (tips : List String) (usage : Option String) : String :=
  let tipText := if tips.isEmpty then "" else "\n\n" ++ "\n".intercalate (tips.map ("  tip: " ++ ·))
  let usageText := match usage with
    | some u => "\n\nUsage: " ++ u
    | none => ""
  "error: " ++ message ++ tipText ++ usageText ++ tryHelp c

/-- An error of a kind with its text built from the parts. -/
def CliError.build (c : Cmd) (kind : ErrorKind) (message : String) (tips : List String)
    (usage : Option String) : CliError :=
  ⟨kind, errorText c message tips usage⟩

/-- The tip naming similar names. -/
def similarTip (what : String) (names : List String) : List String :=
  match names with
  | [] => []
  | [n] => ["a similar " ++ what ++ " exists: '" ++ n ++ "'"]
  | ns => ["some similar " ++ what ++ "s exist: " ++ ", ".intercalate (ns.map fun n => "'" ++ n ++ "'")]

/-- The tip for passing a word that looks like a flag as a value. -/
def escapeTip (arg : String) : String :=
  "to pass '" ++ arg ++ "' as a value, use '-- " ++ arg ++ "'"

/-- A value is missing, or is not one of the allowed names. -/
def invalidValue (c : Cmd) (arg value : String) (allowed : List String) (suggestion : Option String) :
    CliError :=
  let head := if value.isEmpty then "a value is required for '" ++ arg ++ "' but none was supplied"
    else "invalid value '" ++ value ++ "' for '" ++ arg ++ "'"
  let list := if allowed.isEmpty then "" else "\n  [possible values: " ++ ", ".intercalate allowed ++ "]"
  CliError.build c .invalidValue (head ++ list) (suggestion.toList.flatMap fun s => similarTip "value" [s]) none

/-- A value broke its rule, for the reason given. -/
def valueValidation (c : Cmd) (arg value reason : String) : CliError :=
  CliError.build c .valueValidation ("invalid value '" ++ value ++ "' for '" ++ arg ++ "': " ++ reason) [] none

/-- A word matches no parameter. -/
def unknownArgument (c : Cmd) (arg : String) (tips : List String) (usage : String) : CliError :=
  CliError.build c .unknownArgument ("unexpected argument '" ++ arg ++ "' found") tips (some usage)

/-- A word names no subcommand. -/
def unrecognizedSubcommand (c : Cmd) (word : String) (usage : String) : CliError :=
  CliError.build c .invalidSubcommand ("unrecognized subcommand '" ++ word ++ "'") [] (some usage)

/-- Parameters were given together that exclude each other. -/
def argumentConflict (c : Cmd) (arg : String) (others : List String) (usage : String) : CliError :=
  let tail := match others with
    | [o] => if o = arg then " cannot be used multiple times" else " cannot be used with '" ++ o ++ "'"
    | [] => " cannot be used with one or more of the other specified arguments"
    | os => " cannot be used with" ++ String.join (os.map fun o => "\n  " ++ o)
  CliError.build c .argumentConflict ("the argument '" ++ arg ++ "'" ++ tail) [] (some usage)

end ScoreKeeper.Cli
