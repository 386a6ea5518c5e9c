import ScoreKeeper.Json.Value
import ScoreKeeper.Text.Quoted

/-!
# ScoreKeeper — writing JSON

JSON text in two layouts: compact, with no blank at all, and indented, with each member or item
on a line of its own, two spaces deeper per level, and `": "` after a key; an empty array or
object is `[]` or `{}` in both. In strings the quote and the backslash are escaped, line feed,
carriage return, tab, backspace and form feed take their short escapes and the other control
characters `\u00XX` with lowercase hex; everything else is written as it is, except that a
layout may also escape the three characters U+0085, U+2028 and U+2029, which some line readers
take for line breaks.
-/

namespace ScoreKeeper.Json

/-- The layout of written JSON. -/
structure Layout where
  indented : Bool
  escapeSeparators : Bool

/-- No blanks, nothing escaped beyond the rules of JSON. -/
def Layout.compact : Layout := ⟨false, false⟩

/-- Indented by two spaces per level. -/
def Layout.pretty : Layout := ⟨true, false⟩

/-- Compact, with the line-breaking characters escaped: one value per line of a stream. -/
def Layout.line : Layout := ⟨false, true⟩

/-- Four lowercase hex digits. -/
def hex4 (n : Nat) : String :=
  let ds := Text.hexDigits n
  String.ofList (List.replicate (4 - ds.length) '0' ++ ds)

/-- The escaped form of one character inside a string. -/
def escapeChar (l : Layout) (c : Char) : String :=
  match c with
  | '"' => "\\\""
  | '\\' => "\\\\"
  | '\n' => "\\n"
  | '\r' => "\\r"
  | '\t' => "\\t"
  | '\x08' => "\\b"
  | '\x0c' => "\\f"
  | c =>
    if c.toNat < 0x20 || (l.escapeSeparators && (c.toNat = 0x85 || c.toNat = 0x2028 || c.toNat = 0x2029))
    then "\\u" ++ hex4 c.toNat
    else c.toString

/-- A string literal. -/
def quote (l : Layout) (s : String) : String :=
  "\"" ++ String.join (s.toList.map (escapeChar l)) ++ "\""

/-- The line break and indentation before an item at a depth. -/
def breakAt (l : Layout) (depth : Nat) : String :=
  if l.indented then "\n" ++ String.ofList (List.replicate (2 * depth) ' ') else ""

mutual

/-- The text of a value nested `depth` levels deep. -/
def renderAt (l : Layout) (depth : Nat) : Json → String
  | .null => "null"
  | .bool b => if b then "true" else "false"
  | .int n => toString n
  | .real t => t
  | .str s => quote l s
  | .arr [] => "[]"
  | .arr (x :: xs) => "[" ++ renderItems l (depth + 1) (x :: xs) ++ breakAt l depth ++ "]"
  | .obj [] => "\x7b\x7d"
  | .obj (m :: ms) => "\x7b" ++ renderMembers l (depth + 1) (m :: ms) ++ breakAt l depth ++ "\x7d"

/-- Array items, separated by commas. -/
def renderItems (l : Layout) (depth : Nat) : List Json → String
  | [] => ""
  | [x] => breakAt l depth ++ renderAt l depth x
  | x :: xs => breakAt l depth ++ renderAt l depth x ++ "," ++ renderItems l depth xs

/-- Object members, separated by commas. -/
def renderMembers (l : Layout) (depth : Nat) : List (String × Json) → String
  | [] => ""
  | [(k, v)] => breakAt l depth ++ quote l k ++ (if l.indented then ": " else ":") ++ renderAt l depth v
  | (k, v) :: ms =>
    breakAt l depth ++ quote l k ++ (if l.indented then ": " else ":") ++ renderAt l depth v
      ++ "," ++ renderMembers l depth ms

end

/-- The text of a value. -/
def render (l : Layout) (j : Json) : String :=
  renderAt l 0 j

end ScoreKeeper.Json
