import ScoreKeeper.Cli.Spec

/-!
# ScoreKeeper — usage lines

Two usage lines describe a command. The full one, shown in the help and in most errors, is the
command's words, `[OPTIONS]` when it has optional options, its required parameters, its
positional values (optional ones in brackets) and `<COMMAND>` or `[COMMAND]` when it has
subcommands. The short one, shown when some parameters were given or are missing, lists only the
required parameters and those given or missing: options first in the order met, then positional
values by place, each once.
-/

namespace ScoreKeeper.Cli

/-- The parameters a parameter requires, directly or through others, in the order they are
found; a parameter met twice is followed once. -/
def unrollRequires (c : Cmd) (id : String) : List String :=
  go (c.params.foldl (fun n p => n + p.requires.length) 1) [id] [] []
where
  /-- Follows the stack of parameters still to visit. -/
  go : Nat → List String → List String → List String → List String
    | 0, _, _, acc => acc
    | _, [], _, acc => acc
    | n + 1, a :: stack, seen, acc =>
      if seen.contains a then go n stack seen acc
      else
        match c.find? a with
        | none => go n stack (a :: seen) acc
        | some p =>
          let next := p.requires.filter fun r => match c.find? r with
            | some q => !q.requires.isEmpty
            | none => false
          go n (next.reverse ++ stack) (a :: seen) (acc ++ p.requires)

/-- Every required parameter followed by what it requires. -/
def unrollAll (c : Cmd) (required : List String) : List String :=
  required.flatMap fun a => unrollRequires c a ++ [a]

/-- Appends an item unless it is there already. -/
def insertNew (xs : List String) (x : String) : List String :=
  if xs.contains x then xs else xs ++ [x]

/-- The required parameters together with `extra`, as the short usage lists them, leaving out
those for which `given` holds. -/
def requiredUsage (c : Cmd) (required extra : List String) (given : String → Bool) : List String :=
  let step := fun (acc : List String × List (Nat × String)) (r : String) =>
    match c.find? r with
    | none => acc
    | some p =>
      if given r then acc
      else match p.index with
        | some i => (acc.1, acc.2 ++ [(i, p.styled true)])
        | none => (insertNew acc.1 (p.styled true), acc.2)
  let (opts, poss) := (unrollAll c required ++ extra).foldl step ([], [])
  ((poss.mergeSort fun a b => a.1 ≤ b.1).map (·.2)).foldl insertNew opts

/-- Whether the full usage shows `[OPTIONS]`: some option other than help and version is
optional. -/
def needsOptionsTag (c : Cmd) : Bool :=
  c.params.any fun p =>
    !p.isPositional && p.long ≠ some "help" && p.long ≠ some "version"
      && (p.action = .set || p.action = .setTrue || p.action = .append) && !p.required

/-- The parameters of the full usage: required options, then every positional value. -/
def fullArgs (c : Cmd) (required : List String) : List String :=
  let step := fun (acc : List String × List (Nat × String)) (r : String) =>
    match c.find? r with
    | none => acc
    | some p =>
      match p.index with
      | some i => (acc.1, (acc.2.filter fun e => e.1 ≠ i) ++ [(i, p.styled true)])
      | none => (insertNew acc.1 (p.styled true), acc.2)
  let (opts, reqPos) := (unrollAll c required).foldl step ([], [])
  let poss := c.positionals.filterMap fun p => p.index.map fun i =>
    match reqPos.find? fun e => e.1 = i with
    | some e => e.2
    | none => p.styled false
  opts ++ poss

/-- The full usage line. -/
def fullUsage (c : Cmd) (required : List String) : String :=
  let opts := if needsOptionsTag c then " [OPTIONS]" else ""
  let args := String.join ((fullArgs c required).map (" " ++ ·))
  let sub := if c.subcommands.isEmpty then ""
    else if c.subcommandRequired then " <COMMAND>" else " [COMMAND]"
  c.path ++ opts ++ args ++ sub

/-- The short usage line, for parameters given or missing. -/
def shortUsage (c : Cmd) (required used : List String) : String :=
  let args := String.join ((requiredUsage c required used fun _ => false).map (" " ++ ·))
  c.path ++ args ++ (if c.subcommandRequired then " <COMMAND>" else "")

/-- The usage line for an error: the full one when nothing was given, else the short one. -/
def usageFor (c : Cmd) (required used : List String) : String :=
  if used.isEmpty then fullUsage c required else shortUsage c required used

end ScoreKeeper.Cli
