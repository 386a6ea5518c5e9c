import ScoreKeeper.Toml.Read
import ScoreKeeper.Text.Utf8

/-!
# ScoreKeeper — TOML documents

A document is a sequence of lines: blank lines, comments, `key = value` pairs, and `[table]` or
`[[array of tables]]` headers that choose the table later pairs go into. Dotted keys and dotted
headers create the tables they pass through, as implied tables; a table may be defined by a
header once, a key only once in its table, a header may not redefine a table that dotted keys
made, and no key may pass through a value.

A failure is shown with its line and column, the line itself, carets under the offending span,
and the reason:

```
TOML parse error at line 1, column 5
  |
1 | not toml at all
  |     ^
expected `.`, `=`
```
-/

namespace ScoreKeeper.Toml

/-- The entries of a table. -/
abbrev Entries := List (String × Node)

/-- Why a document's structure is refused. -/
inductive Clash where
  | duplicate (key : String) (table : Option (List String))
  | extendsValue (path : List String) (type : String)
  deriving DecidableEq, Repr

/-- The wording of a clash. -/
def Clash.message : Clash → String
  | .duplicate k none => "duplicate key `" ++ k ++ "`"
  | .duplicate k (some []) => "duplicate key `" ++ k ++ "` in document root"
  | .duplicate k (some t) => "duplicate key `" ++ k ++ "` in table `" ++ ".".intercalate t ++ "`"
  | .extendsValue p t =>
    "dotted key `" ++ ".".intercalate p ++ "` attempted to extend non-table type (" ++ t ++ ")"

/-- The entry under a key. -/
def lookup (k : String) (es : Entries) : Option Node :=
  (es.find? (·.1 = k)).map (·.2)

/-- The entries with the one under `k` replaced. -/
def replaceEntry (k : String) (n : Node) (es : Entries) : Entries :=
  es.map fun e => if e.1 = k then (k, n) else e

/-- Applies `f` to the entries of the table at a path, where `f` is told whether that table was
made by dotted keys. Missing tables on the way are created as implied tables, dotted when
`dotted`; the last table of an array of tables stands for the array. Passing through a value
fails, and so does passing a defined table with dotted keys. -/
def descend (dotted : Bool) (f : Bool → Entries → Except Clash Entries) :
    List String → Bool → List String → Entries → Except Clash Entries
  | _, here, [], es => f here es
  | walked, _, k :: ks, es =>
    let path := walked ++ [k]
    match lookup k es with
    | none => do
      let sub ← descend dotted f path dotted ks []
      pure (es ++ [(k, .table sub true dotted ⟨0, 0⟩)])
    | some (.leaf w) => .error (.extendsValue path w.typeName)
    | some (.table sub imp dot sp) =>
      if dotted && !imp then .error (.duplicate k none)
      else do
        let sub' ← descend dotted f path dot ks sub
        pure (replaceEntry k (.table sub' imp dot sp) es)
    | some (.tables items) =>
      match items.getLast? with
      | some (sub, sp) => do
        let sub' ← descend dotted f path false ks sub
        pure (replaceEntry k (.tables (items.dropLast ++ [(sub', sp)])) es)
      | none => .error (.duplicate k none)

/-- A document being read: its root table and the path of the table that pairs go into. -/
structure Doc where
  root : Entries
  current : List String

/-- Adds `dotted.key = v` to the current table. -/
def Doc.addPair (d : Doc) (dotted : List String) (key : String) (v : Value) : Except Clash Doc := do
  let put := fun (here : Bool) (es : Entries) =>
    if here == dotted.isEmpty then .error (Clash.duplicate key none)
    else if es.any (·.1 = key) then .error (Clash.duplicate key (some d.current))
    else .ok (es ++ [(key, Node.leaf v)])
  let root ← descend false (fun _ es => descend true put [] false dotted es) [] false d.current d.root
  pure { d with root := root }

/-- Starts the table of a `[header]`. -/
def Doc.startTable (d : Doc) (path : List String) (span : Span) : Except Clash Doc := do
  let parent := path.dropLast
  let key := (path.getLast?).getD ""
  let put := fun (_ : Bool) (es : Entries) =>
    match lookup key es with
    | none => .ok (es ++ [(key, Node.table [] false false span)])
    | some (.table sub true false _) => .ok (replaceEntry key (.table sub false false span) es)
    | some _ => .error (Clash.duplicate key (some parent))
  let root ← descend false put [] false parent d.root
  pure { root := root, current := path }

/-- Starts a new table of a `[[header]]` array. -/
def Doc.startArrayTable (d : Doc) (path : List String) (span : Span) : Except Clash Doc := do
  let parent := path.dropLast
  let key := (path.getLast?).getD ""
  let put := fun (_ : Bool) (es : Entries) =>
    match lookup key es with
    | none => .ok (es ++ [(key, Node.tables [([], span)])])
    | some (.tables items) => .ok (replaceEntry key (.tables (items ++ [([], span)])) es)
    | some _ => .error (Clash.duplicate key (some parent))
  let root ← descend false put [] false parent d.root
  pure { root := root, current := path }

/-- Turns a clash at a cursor into a hard failure there. -/
def clashAt {α : Type} (c : Cursor) (ctx : List Ctx) (r : Except Clash α) : Except Fail α :=
  r.mapError fun e => ⟨c.pos, true, ctx, some e.message⟩

/-- What the end of a line after a value or header must be. -/
def lineRestCtx : List Ctx := [expectChar '\n', expectChar '#']

/-- Reads `key = value` and the rest of its line into the document. -/
def readPair (fuel : Nat) (d : Doc) (c : Cursor) : Except Fail (Doc × Cursor) := do
  let (path, c1) ← hardened (dottedKey c)
  match c1.rest with
  | '=' :: _ =>
    let (v, c2) ← hardened (value fuel (blanks c1.next))
    let ((), c3) ← hardened (within lineRestCtx (lineRest c2))
    let key := (path.getLast?).getD ""
    let d' ← clashAt c [] (d.addPair path.dropLast key v)
    pure (d', c3)
  | _ => hardAt c1 [expectChar '.', expectChar '=']

/-- Reads a `[header]` or `[[header]]` line into the document. -/
def readHeader (d : Doc) (c : Cursor) : Except Fail (Doc × Cursor) :=
  within [.label "table"] (do
    let array := c.startsWith ['[', '[']
    let c1 := c.skip (if array then 2 else 1)
    let (path, c2) ← hardened (dottedKey c1)
    let close := if array then [']', ']'] else [']']
    if !c2.startsWith close then
      hardAt c2 [expectChar '.', expectText (String.ofList close)]
    else
      let c3 := c2.skip close.length
      let span : Span := ⟨c.pos, c3.pos⟩
      let ((), c4) ← hardened (within lineRestCtx (lineRest c3))
      let d' ← clashAt c [] (if array then d.startArrayTable path span else d.startTable path span)
      pure (d', c4))

/-- Reads the lines of a document; every round consumes at least one character. -/
def readLines : Nat → Doc → Cursor → Except Fail Doc
  | 0, d, _ => .ok d
  | n + 1, d, c =>
    match c.rest with
    | [] => .ok d
    | x :: _ =>
      let step : Except Fail (Doc × Cursor) :=
        if x = '#' then
          let c1 := (comment? c).getD c
          (hardened (lineEnd c1)).map fun (_, c2) => (d, c2)
        else if x = '[' then readHeader d c
        else if x = '\n' || x = '\r' then
          match newline? c with
          | some c1 => .ok (d, c1)
          | none => soft c []
        else readPair n d c
      match step with
      | .ok (d', c') => readLines n d' (blanks c')
      | .error f => .error f

/-- Reads a document into its root table's entries. -/
def readDocument (text : String) : Except Fail Entries :=
  let cs := text.toList
  let c0 : Cursor := match cs with
    | '\uFEFF' :: rest => ⟨rest, 3⟩
    | _ => ⟨cs, 0⟩
  let c := blanks c0
  (readLines (cs.length + 1) ⟨[], []⟩ c).map (·.root)

/-- The message of a reading failure: what was being read, what was expected, and why. -/
def Fail.message (f : Fail) : String :=
  let label := f.ctx.findSome? fun
    | .label s => some s
    | _ => none
  let expected := f.ctx.filterMap fun
    | .expected s => some s
    | _ => none
  let parts := (label.map ("invalid " ++ ·)).toList ++
    (if expected.isEmpty then [] else ["expected " ++ ", ".intercalate expected]) ++ f.cause.toList
  "\n".intercalate parts

/-- An error about a document: its message and, when it has one, the span it is about. -/
structure TomlError where
  message : String
  span : Option Span
  keys : List String

/-- The error of a reading failure: one byte at its place, or none at the end. -/
def Fail.toError (f : Fail) (text : String) : TomlError :=
  let stop := if f.pos = text.utf8ByteSize then f.pos else f.pos + 1
  ⟨f.message, some ⟨f.pos, stop⟩, []⟩

/-- The line and column, from zero, of a byte offset; the column counts characters when the line
up to the offset is well-formed text, and bytes otherwise. -/
def locate (bytes : List UInt8) (index : Nat) : Nat × Nat :=
  if bytes.isEmpty then (0, index)
  else
    let safe := min index (bytes.length - 1)
    let beyond := index - safe
    let lineStart := match (bytes.take safe).reverse.idxOf? 10 with
      | some j => safe - j
      | none => 0
    let line := (bytes.take lineStart).count 10
    let slice := (bytes.drop lineStart).take (safe - lineStart + 1)
    let column := if Text.isWellFormed slice then (Text.decodeLossy slice).length - 1 else safe - lineStart
    (line, column + beyond)

/-- A run of a character. -/
def run (n : Nat) (c : Char) : String :=
  String.ofList (List.replicate n c)

/-- The text of an error about a document. -/
def TomlError.render (e : TomlError) (text : String) : String :=
  match e.span with
  | some sp =>
    let (line, column) := locate (Text.utf8 text) sp.start
    let lineNo := line + 1
    let gutter := (toString lineNo).length
    let content := ((text.splitOn "\n")[line]?).getD ""
    let width := min (sp.stop - sp.start) (content.utf8ByteSize - column)
    s!"TOML parse error at line {lineNo}, column {column + 1}\n" ++ run (gutter + 1) ' ' ++ "|\n" ++
      s!"{lineNo} | " ++ content ++ "\n" ++ run (gutter + 1) ' ' ++ "|" ++ run (column + 1) ' ' ++
      "^" ++ run (width - 1) '^' ++ "\n" ++ e.message ++ "\n"
  | none =>
    e.message ++ "\n" ++ (if e.keys.isEmpty then "" else "in `" ++ ".".intercalate e.keys ++ "`\n")

end ScoreKeeper.Toml
