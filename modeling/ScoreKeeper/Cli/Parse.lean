import ScoreKeeper.Cli.Help
import ScoreKeeper.Cli.Error
import ScoreKeeper.Cli.Similar
import ScoreKeeper.Text.Integer
import ScoreKeeper.Topic

/-!
# ScoreKeeper — reading a command line

The words of a command line are read left to right against a program's specification. At each
word, in this order: a subcommand's name hands the rest of the words to that subcommand (`help`
prints the help of the commands named after it); `--` makes every later word a value; `--long`
and `--long=value` name an option or flag; `-abc` is a run of short flags, where a short option
takes the rest of the run (after an optional `=`) or the next word as its value; a word after an
option that awaits its value is that value; anything else fills the next positional place.

A value is checked when its parameter is complete: at the next option, flag or positional value,
before a subcommand, or at the end. A word that matches nothing first completes what is pending,
ignoring any fault there, and then is reported with the closest name it resembles.

When the words are read, parameters that were not given take their defaults, and the command is
checked: help when nothing was given to a command that needs something, a missing subcommand,
parameters that exclude each other, and missing required parameters (including those required by
parameters that were given). A subcommand is read and checked before its parent is checked.
-/

namespace ScoreKeeper.Cli

/-- Where a parameter's value came from. -/
inductive Source where
  | fallback
  | given
  deriving DecidableEq, Repr

/-- The rank of a source: a value from the command line outranks a default. -/
def Source.rank : Source → Nat
  | .fallback => 0
  | .given => 1

/-- A parameter with the values it was given. -/
structure Matched where
  id : String
  values : List String
  source : Source
  deriving Repr

/-- A parameter whose values are still being collected. -/
structure Pending where
  id : String
  values : List String
  deriving Repr

/-- The parameters read so far, in the order first met, and the one still collecting values. -/
structure Matcher where
  args : List Matched
  pending : Option Pending
  deriving Repr

namespace Matcher

/-- Nothing read. -/
def empty : Matcher := ⟨[], none⟩

/-- The entry of a parameter. -/
def get? (m : Matcher) (id : String) : Option Matched :=
  m.args.find? fun a => a.id = id

/-- Whether a parameter has an entry. -/
def has (m : Matcher) (id : String) : Bool :=
  (m.get? id).isSome

/-- Whether a parameter was given on the command line. -/
def given (m : Matcher) (id : String) : Bool :=
  match m.get? id with
  | some a => a.source = .given
  | none => false

/-- The parameters of a command given on the command line, in the order first met. -/
def givenIds (m : Matcher) (c : Cmd) : List String :=
  (m.args.filter fun a => a.source = .given && (c.find? a.id).isSome).map (·.id)

/-- Drops a parameter's entry. -/
def remove (m : Matcher) (id : String) : Matcher :=
  { m with args := m.args.filter fun a => a.id ≠ id }

/-- Opens a parameter's entry, keeping its place if it has one; the higher source wins. -/
def start (m : Matcher) (id : String) (src : Source) : Matcher :=
  if m.has id then
    { m with args := m.args.map fun a =>
        if a.id = id then { a with source := if a.source.rank < src.rank then src else a.source } else a }
  else { m with args := m.args ++ [⟨id, [], src⟩] }

/-- Adds a value to a parameter's entry. -/
def addValue (m : Matcher) (id : String) (v : String) : Matcher :=
  { m with args := m.args.map fun a => if a.id = id then { a with values := a.values ++ [v] } else a }

/-- The first value of a parameter. -/
def value? (m : Matcher) (id : String) : Option String :=
  (m.get? id).bind (·.values.head?)

end Matcher

/-- The fault of a value, by its parameter's rule. -/
def checkValue (c : Cmd) (p : Param) (v : String) : Option CliError :=
  match p.rule with
  | .text => none
  | .path => if v.isEmpty then some (invalidValue c p.display "" [] none) else none
  | .unsigned =>
    match Text.readU64 v with
    | .ok _ => none
    | .error e => some (valueValidation c p.display v e.message)
  | .signed32 =>
    match Text.readI64 v with
    | .error e => some (valueValidation c p.display v e.message)
    | .ok n =>
      if -Int.pow 2 31 ≤ n && n < Int.pow 2 31 then none
      else some (valueValidation c p.display (toString n)
        (toString n ++ " is not in -2147483648..=2147483647"))
  | .topic =>
    match Topic.parse v with
    | .ok _ => none
    | .error e => some (valueValidation c p.display v e.message)
  | .choice vs =>
    if vs.contains v then none else some (invalidValue c p.display v vs (closestName? v vs))

/-- Adds checked values to a parameter's entry, stopping at the first fault. -/
def addValues (c : Cmd) (p : Param) : Matcher → List String → Matcher × Option CliError
  | m, [] => (m, none)
  | m, v :: vs =>
    match checkValue c p v with
    | some e => (m, some e)
    | none => addValues c p (m.addValue p.id v) vs

/-- Records a parameter with its values; help and version requests end the reading. The
matcher is returned also on a fault, as it stands then. -/
def record (p : Program) (c : Cmd) (m : Matcher) (prm : Param) (vals : List String) (src : Source) :
    Matcher × Option CliError :=
  if src = .given && prm.takesValue && vals.isEmpty then
    (m, some (invalidValue c prm.display "" (match prm.rule with | .choice vs => vs | _ => []) none))
  else
    match prm.action with
    | .help => (m, some ⟨.displayHelp, helpText p c⟩)
    | .version => (m, some ⟨.displayVersion, versionText c⟩)
    | _ =>
      let vals := if prm.action = .setTrue && vals.isEmpty then ["true"] else vals
      if m.has prm.id then
        (m.remove prm.id, some (argumentConflict c prm.display [prm.display] (fullUsage c c.requiredIds)))
      else addValues c prm (m.start prm.id src) vals

/-- Completes the pending parameter, if any. -/
def settle (p : Program) (c : Cmd) (m : Matcher) : Matcher × Option CliError :=
  match m.pending with
  | none => (m, none)
  | some pd =>
    let m := { m with pending := none }
    match c.find? pd.id with
    | some prm => record p c m prm pd.values .given
    | none => (m, none)

/-- Completes the pending parameter, then records another one. -/
def react (p : Program) (c : Cmd) (m : Matcher) (prm : Param) (vals : List String) :
    Matcher × Option CliError :=
  match settle p c m with
  | (m, some e) => (m, some e)
  | (m, none) => record p c m prm vals .given

/-- The state of reading one command's words. -/
structure Reading where
  matcher : Matcher
  awaiting : Option String
  position : Nat
  trailing : Bool
  deriving Repr

/-- The start of reading. -/
def Reading.start : Reading := ⟨.empty, none, 1, false⟩

/-- How reading one command's words ended. -/
inductive Ending where
  | finished (r : Reading)
  | subcommand (r : Reading) (name : String) (rest : List String)

/-- Whether the text after a `-` reads as a number: digits, at most one `.` (not first) before an
optional exponent `e` (not first, not last). -/
def isNumber (cs : List Char) : Bool :=
  go cs 0 false none && (match go2 cs 0 none with
    | some e => e + 1 ≠ cs.length
    | none => true)
where
  /-- Checks every character. -/
  go : List Char → Nat → Bool → Option Nat → Bool
    | [], _, _, _ => true
    | c :: rest, i, dot, e =>
      if c.isDigit then go rest (i + 1) dot e
      else if c = '.' && !dot && e.isNone && 0 < i then go rest (i + 1) true e
      else if c = 'e' && e.isNone && 0 < i then go rest (i + 1) dot (some i)
      else false
  /-- The place of the exponent mark. -/
  go2 : List Char → Nat → Option Nat → Option Nat
    | [], _, e => e
    | c :: rest, i, e => if c = 'e' && e.isNone && 0 < i then go2 rest (i + 1) (some i) else go2 rest (i + 1) e

/-- The help of the commands named after `help`. -/
def helpFor (p : Program) : Cmd → List String → CliError
  | cur, [] => ⟨.displayHelp, helpText p cur⟩
  | cur, w :: ws =>
    match (if cur.subcommands.contains w then p.sub? w else none) with
    | some s => helpFor p s ws
    | none => unrecognizedSubcommand cur w (fullUsage cur cur.requiredIds)

/-- The error for a `--long` word that matches nothing: the closest long name of the command,
or else of the subcommand named soonest after it. -/
def unknownLong (p : Program) (c : Cmd) (m : Matcher) (name : String) (rest : List String)
    (trailing : Bool) : CliError :=
  let fromSubs := c.subcommands.filterMap fun n => do
    let s ← p.sub? n
    let cand ← closestName? name s.longs
    let pos ← rest.idxOf? n
    pure (pos, cand, n)
  let best := fromSubs.foldl (fun (acc : Option (Nat × String × String)) x =>
    match acc with
    | some a => if x.1 < a.1 then some x else some a
    | none => some x) none
  let own := closestName? name c.longs
  let m := match own with
    | some cand => match c.findLong? cand with
      | some q => m.start q.id .given
      | none => m
    | none => m
  let tips := match own, best with
    | some cand, _ => similarTip "argument" ["--" ++ cand]
    | none, some (_, cand, sub) => ["'" ++ sub ++ " --" ++ cand ++ "' exists"]
    | none, none => if !trailing && c.hasPositionals then [escapeTip ("--" ++ name)] else []
  unknownArgument c ("--" ++ name) tips (usageFor c c.requiredIds (m.givenIds c))

/-- The error for a word that fills no place. -/
def strayWord (c : Cmd) (w : String) (trailing : Bool) : CliError :=
  let usage := fullUsage c c.requiredIds
  if trailing && c.subcommands.contains w then
    unknownArgument c "--" ["subcommand '" ++ w ++ "' exists; to use it, remove the '--' before it"] usage
  else
    let flagLike := w.startsWith "-" && w ≠ "-"
    let escape := if !trailing && c.hasPositionals && flagLike then [escapeTip w] else []
    let cands := similarNames w c.subcommands
    if !c.subcommands.isEmpty && !cands.isEmpty then
      CliError.build c .invalidSubcommand ("unrecognized subcommand '" ++ w ++ "'")
        (similarTip "subcommand" cands ++ escape) (some usage)
    else if !c.subcommands.isEmpty && !c.hasPositionals then unrecognizedSubcommand c w usage
    else unknownArgument c w escape usage

/-- Reads a `--long` or `--long=value` word. -/
def readLong (p : Program) (c : Cmd) (r : Reading) (word : String) (rest : List String) :
    Except CliError Reading :=
  let body := word.toList.drop 2
  let name := String.ofList (body.takeWhile (· ≠ '='))
  let value := match body.dropWhile (· ≠ '=') with
    | _ :: v => some (String.ofList v)
    | [] => none
  match c.findLong? name with
  | some prm =>
    if prm.takesValue then
      match value with
      | some v =>
        match react p c r.matcher prm [v] with
        | (_, some e) => .error e
        | (m, none) => .ok { r with matcher := m, awaiting := none }
      | none =>
        match settle p c r.matcher with
        | (_, some e) => .error e
        | (m, none) => .ok { r with matcher := { m with pending := some ⟨prm.id, []⟩ }, awaiting := some prm.id }
    else
      match value with
      | some v =>
        let used := r.matcher.givenIds c ++ [prm.id]
        .error (CliError.build c .tooManyValues
          ("unexpected value '" ++ v ++ "' for '" ++ prm.display ++ "' found; no more were expected") []
          (some (usageFor c c.requiredIds used)))
      | none =>
        match react p c r.matcher prm [] with
        | (_, some e) => .error e
        | (m, none) => .ok { r with matcher := m, awaiting := none }
  | none => .error (unknownLong p c (settle p c r.matcher).1 name rest r.trailing)

/-- Reads the flags of a `-abc` word from its characters. -/
def readShorts (p : Program) (c : Cmd) : Reading → List Char → Except CliError Reading
  | r, [] => .ok { r with awaiting := none }
  | r, ch :: more =>
    match c.findShort? ch with
    | some prm =>
      if !prm.takesValue then
        match react p c r.matcher prm [] with
        | (_, some e) => .error e
        | (m, none) => readShorts p c { r with matcher := m } more
      else if more.isEmpty then
        match settle p c r.matcher with
        | (_, some e) => .error e
        | (m, none) => .ok { r with matcher := { m with pending := some ⟨prm.id, []⟩ }, awaiting := some prm.id }
      else
        let v := match more with
          | '=' :: v => v
          | v => v
        match react p c r.matcher prm [String.ofList v] with
        | (_, some e) => .error e
        | (m, none) => .ok { r with matcher := m, awaiting := none }
    | none =>
      let arg := "-" ++ ch.toString
      let tips := if !r.trailing && c.hasPositionals then [escapeTip arg] else []
      .error (unknownArgument c arg tips (fullUsage c c.requiredIds))

/-- Whether a `-` word is a value: a negative number where a parameter that takes those awaits a
value or is the next positional place. -/
def isValueWord (c : Cmd) (r : Reading) (word : String) : Bool :=
  let body := word.toList.drop 1
  let awaitsNumber := match r.awaiting with
    | some id => ((c.find? id).map (·.negativeNumbers)).getD false
    | none => false
  let placeTakesNumber := ((c.positionalAt? r.position).map (·.negativeNumbers)).getD false
  (awaitsNumber || placeTakesNumber) && isNumber body

/-- Reads a word that is a value: the awaited option's, or the next positional place's. -/
def readValue (p : Program) (c : Cmd) (r : Reading) (w : String) : Except CliError Reading :=
  match r.awaiting, r.matcher.pending with
  | some _, some pd =>
    .ok { r with matcher := { r.matcher with pending := some { pd with values := pd.values ++ [w] } },
                 awaiting := none }
  | _, _ =>
    match c.positionalAt? r.position with
    | some prm =>
      match settle p c r.matcher with
      | (_, some e) => .error e
      | (m, none) =>
        .ok { r with matcher := { m with pending := some ⟨prm.id, [w]⟩ }, position := r.position + 1,
                     awaiting := none }
    | none => .error (strayWord c w r.trailing)

/-- Reads one word: the state after it, or how reading ends. -/
def readWord (p : Program) (c : Cmd) (r : Reading) (w : String) (rest : List String) :
    Except CliError (Reading ⊕ Ending) :=
  if r.trailing then Sum.inl <$> readValue p c r w
  else if c.subcommands.contains w then
    if w = "help" then .error (helpFor p c rest) else .ok (.inr (.subcommand r w rest))
  else if w = "--" then .ok (.inl { r with trailing := true })
  else if w.startsWith "--" then Sum.inl <$> readLong p c r w rest
  else if w.startsWith "-" && w ≠ "-" && !isValueWord c r w then
    Sum.inl <$> readShorts p c r (w.toList.drop 1)
  else Sum.inl <$> readValue p c r w

/-- Reads words until they end or a subcommand takes the rest. -/
def readWords (p : Program) (c : Cmd) : Reading → List String → Except CliError Ending
  | r, [] => .ok (.finished r)
  | r, w :: rest =>
    match readWord p c r w rest with
    | .error e => .error e
    | .ok (.inr e) => .ok e
    | .ok (.inl r') => readWords p c r' rest

/-- Gives every parameter that was not given its default. -/
def addDefaults (p : Program) (c : Cmd) (m : Matcher) : Matcher :=
  c.params.foldl (fun m prm =>
    if m.has prm.id then m
    else match prm.defaultValue with
      | some v => (record p c m prm [v] .fallback).1
      | none => m) m

/-- The given parameters that exclude a given parameter, or that it excludes. -/
def conflictsOf (c : Cmd) (m : Matcher) (id : String) : List String :=
  let mine := ((c.find? id).map (·.conflicts)).getD []
  let found := (m.givenIds c).filter (· ≠ id) |>.flatMap fun o =>
    (if mine.contains o then [o] else [])
      ++ (if (((c.find? o).map (·.conflicts)).getD []).contains id then [o] else [])
  found.foldl insertNew []

/-- The first conflict among the given parameters. -/
def checkConflicts (c : Cmd) (m : Matcher) : Option CliError :=
  let given := m.givenIds c
  (given.find? fun a => !(conflictsOf c m a).isEmpty).map fun a =>
    let others := conflictsOf c m a
    let kept := given.filter fun k => !others.contains k
    let needed := (kept.flatMap fun k => ((c.find? k).map (·.requires)).getD []).filter fun k =>
      !kept.contains k && !others.contains k
    let name := fun (k : String) => ((c.find? k).map (·.display)).getD k
    argumentConflict c (name a) (others.map name) (usageFor c c.requiredIds (needed ++ kept))

/-- The first check of required parameters: those missing, with the positional places before
the last missing one, reported with the short usage. -/
def checkRequired (c : Cmd) (m : Matcher) : Option CliError :=
  let required := (m.givenIds c).foldl (fun req a => (unrollRequires c a).foldl insertNew req)
    c.requiredIds
  let missing := required.filter fun r =>
    !m.given r && (conflictsOf c m r).isEmpty && (c.find? r).isSome
  let highest := missing.foldl (fun h r => max h (((c.find? r).bind (·.index)).getD 0)) 0
  let before := (c.positionals.filter fun q => q.index.getD 0 < highest).map (·.id)
  let missing := missing ++ before
  if missing.isEmpty then none
  else
    let names := requiredUsage c required missing m.given
    let used := m.givenIds c ++ missing
    some (CliError.build c .missingRequiredArgument
      ("the following required arguments were not provided:" ++ String.join (names.map ("\n  " ++ ·)))
      [] (some (usageFor c required used)))

/-- Checks a command once its words are read. -/
def validate (p : Program) (c : Cmd) (m : Matcher) (hasSub : Bool) : Except CliError Unit := do
  if !hasSub && c.helpWhenEmpty && (m.givenIds c).isEmpty then
    throw ⟨.displayHelpOnMissing, helpText p c⟩
  if !hasSub && c.subcommandRequired then
    throw (CliError.build c .missingSubcommand
      ("'" ++ c.path ++ "' requires a subcommand but one was not provided\n  [subcommands: "
        ++ ", ".intercalate c.subcommands ++ "]") [] (some (fullUsage c c.requiredIds)))
  if let some e := checkConflicts c m then throw e
  if let some e := checkRequired c m then throw e

/-- Completes, defaults and checks a command's reading. -/
def finish (p : Program) (c : Cmd) (m : Matcher) (hasSub : Bool) : Except CliError Matcher := do
  let m ← match settle p c m with
    | (_, some e) => throw e
    | (m, none) => pure m
  let m := addDefaults p c m
  validate p c m hasSub
  pure m

/-- A command line read and checked: the root's parameters and the subcommand's, if any. -/
structure Reads where
  root : Matcher
  sub : Option (String × Matcher)

/-- Reads and checks a command line. -/
def readCommandLine (p : Program) (words : List String) : Except CliError Reads := do
  match ← readWords p p.root .start words with
  | .finished r => pure ⟨← finish p p.root r.matcher false, none⟩
  | .subcommand r name rest =>
    let m0 ← match settle p p.root r.matcher with
      | (_, some e) => throw e
      | (m, none) => pure m
    match p.sub? name with
    | none => pure ⟨← finish p p.root m0 false, none⟩
    | some sc =>
      let sr ← match ← readWords p sc .start rest with
        | .finished r => pure r
        | .subcommand r _ _ => pure r
      let sm ← finish p sc sr.matcher false
      let m ← finish p p.root m0 true
      pure ⟨m, some (name, sm)⟩

/-- Hands global parameters down: each takes the value of the deepest level where it ranks
highest, and every level gets it. -/
def Reads.spread (rd : Reads) (globals : List String) : Reads :=
  match rd.sub with
  | none => rd
  | some (name, sm) =>
    let pick := fun (g : String) =>
      match rd.root.get? g, sm.get? g with
      | some a, some b => some (if b.source.rank < a.source.rank then a else b)
      | some a, none => some a
      | none, some b => some b
      | none, none => none
    let chosen := globals.filterMap pick
    let put := fun (m : Matcher) => chosen.foldl (fun m a =>
      if m.has a.id then { m with args := m.args.map fun x => if x.id = a.id then a else x }
      else { m with args := m.args ++ [a] }) m
    ⟨put rd.root, some (name, put sm)⟩

end ScoreKeeper.Cli
