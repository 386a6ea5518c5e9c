/-!
# ScoreKeeper — error reports

A command that fails reports an error and the errors that caused it, outermost first; a step that
adds context puts its own message in front. On standard error a report reads `Error: ` and the
outer message, then, when there are causes, a blank line, `Caused by:` and the causes: indented
by four spaces when there is one, numbered from 0 in a column of width five when there are
several. A cause that spans lines keeps its later lines under its first.
-/

namespace ScoreKeeper.Tool

/-- A failed command's error and its causes. -/
structure Report where
  head : String
  causes : List String
  deriving DecidableEq, Repr

/-- A report from a chain of messages, outermost first. -/
def Report.ofChain : List String → Report
  | [] => ⟨"", []⟩
  | m :: ms => ⟨m, ms⟩

/-- A report with no cause. -/
def Report.plain (message : String) : Report :=
  ⟨message, []⟩

/-- The report with a message of context in front. -/
def Report.context (message : String) (r : Report) : Report :=
  ⟨message, r.head :: r.causes⟩

/-- Every message, outermost first. -/
def Report.chain (r : Report) : List String :=
  r.head :: r.causes

/-- A run of spaces. -/
def blank (n : Nat) : String :=
  String.ofList (List.replicate n ' ')

/-- A cause's text with its later lines indented. -/
def indentLines (indent : String) (text : String) : String :=
  ("\n" ++ indent).intercalate (text.splitOn "\n")

/-- A number right-aligned in five columns. -/
def numberColumn (n : Nat) : String :=
  let s := toString n
  blank (5 - s.length) ++ s

/-- The block of causes under `Caused by:`. -/
def causesText (causes : List String) : String :=
  match causes with
  | [] => ""
  | [c] => "\n    " ++ indentLines "    " c
  | _ => String.join (causes.zipIdx.map fun (c, i) => "\n" ++ numberColumn i ++ ": " ++ indentLines "       " c)

/-- The report as standard error shows it, with its final line break. -/
def Report.render (r : Report) : String :=
  "Error: " ++ r.head ++ (if r.causes.isEmpty then "" else "\n\nCaused by:" ++ causesText r.causes) ++ "\n"

end ScoreKeeper.Tool
