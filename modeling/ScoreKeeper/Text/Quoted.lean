import ScoreKeeper.Text.Unicode.Classes

/-!
# ScoreKeeper — quoted characters and strings

Error messages show a character between single quotes and a text between double quotes. Inside
the quotes a character stands for itself unless it is the backslash, the quote that delimits it,
one of the four control characters with a short escape (`\0`, `\t`, `\r`, `\n`), a grapheme
extender, or not printable; those last two are written `\u{hex}` with lowercase digits and no
leading zeros. The other quote character is never escaped.
-/

namespace ScoreKeeper.Text

open Unicode

/-- Lowercase hexadecimal digits of a number, without leading zeros. -/
def hexDigits (n : Nat) : List Char :=
  Nat.toDigits 16 n

/-- The escape `\u{hex}` of a character. -/
def unicodeEscape (c : Char) : List Char :=
  ['\\', 'u', '{'] ++ hexDigits c.toNat ++ ['}']

/-- One character inside quotes delimited by `quote`. -/
def escapeChar (quote : Char) (c : Char) : List Char :=
  if c = '\x00' then ['\\', '0']
  else if c = '\t' then ['\\', 't']
  else if c = '\r' then ['\\', 'r']
  else if c = '\n' then ['\\', 'n']
  else if c = '\\' then ['\\', '\\']
  else if c = quote then ['\\', c]
  else if isGraphemeExtend c then unicodeEscape c
  else if isPrintable c then [c]
  else unicodeEscape c

/-- A character between single quotes, such as `'~'` or `'\n'`. -/
def quoteChar (c : Char) : String :=
  String.ofList ('\'' :: escapeChar '\'' c ++ ['\''])

/-- A text between double quotes, such as `"a\"b"`. -/
def quoteString (s : String) : String :=
  String.ofList ('"' :: s.toList.flatMap (escapeChar '"') ++ ['"'])

end ScoreKeeper.Text
