/-!
# ScoreKeeper — TOML values

A TOML document is a tree of tables. A value remembers the span of bytes it was written in, so
that an error about it can point at it. Tables defined by a `[header]` and tables that dotted keys
or deeper headers only imply are told apart, because TOML forbids defining a table twice but lets
an implied table be defined once.
-/

namespace ScoreKeeper.Toml

/-- A span of bytes in the source, `start` included and `stop` excluded. -/
structure Span where
  start : Nat
  stop : Nat
  deriving DecidableEq, Repr

/-- A value as written after `=`, with its span. A float is kept as the shortest decimal that
names it, a date or time as written. -/
inductive Value where
  | string (s : String) (span : Span)
  | integer (n : Int) (span : Span)
  | float (text : String) (span : Span)
  | boolean (b : Bool) (span : Span)
  | datetime (text : String) (span : Span)
  | array (items : List Value) (span : Span)
  | inline (entries : List (String × Value)) (span : Span)
  deriving Repr

/-- The span of a value. -/
def Value.span : Value → Span
  | .string _ s | .integer _ s | .float _ s | .boolean _ s | .datetime _ s | .array _ s
  | .inline _ s => s

/-- The name of a value's type, as errors give it. -/
def Value.typeName : Value → String
  | .string .. => "string"
  | .integer .. => "integer"
  | .float .. => "float"
  | .boolean .. => "boolean"
  | .datetime .. => "datetime"
  | .array .. => "array"
  | .inline .. => "inline table"

/-- An entry of a table: a value; a table, with its entries in the order written, whether it is
only implied, whether dotted keys made it, and the span of its header; or an array of tables,
each with its entries and header span. -/
inductive Node where
  | leaf (v : Value)
  | table (entries : List (String × Node)) (implicit dotted : Bool) (span : Span)
  | tables (items : List (List (String × Node) × Span))
  deriving Repr

end ScoreKeeper.Toml
