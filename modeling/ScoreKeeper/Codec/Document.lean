import ScoreKeeper.Codec.Line

/-!
# ScoreKeeper — documents of lines

A document is its records' lines, each ended by a line feed. Reading one splits the text at line
feeds only, strips each line's framing (`trimLine`: trailing carriage returns and line feeds,
then spaces at both ends), skips lines left empty, and decodes the rest; `inspect` keeps every
refused line with its 1-based number, its trimmed text and the error, while `decodeDocument`
keeps only the records.
-/

namespace ScoreKeeper

/-- Drops the elements that satisfy `p` from the end of a list. -/
def dropTrailing {α : Type} (p : α → Bool) (xs : List α) : List α :=
  (xs.reverse.dropWhile p).reverse

/-- Strips line framing: trailing carriage returns and line feeds, then spaces at both ends.
Other blanks belong to the record. -/
def trimLine (raw : String) : String :=
  let cs := dropTrailing (fun c => c = '\r' || c = '\n') raw.toList
  String.ofList (dropTrailing (· = ' ') (cs.dropWhile (· = ' ')))

/-- The document text of records, one line each, each ended by a line feed. -/
def encodeDocument {α : Type} [LineRecord α] (k : ChecksumKey) (records : List α) : String :=
  String.join (records.map fun r => LineRecord.encode k r ++ "\n")

/-- A line refused while reading a document. -/
structure RejectedLine where
  lineNo : Nat
  content : String
  error : CodecError
  deriving DecidableEq, Repr

/-- The outcome of reading a document: its records in order and its refused lines. -/
structure Report (α : Type) where
  entries : List α
  rejected : List RejectedLine

/-- Whether no line was refused. -/
def Report.isClean {α : Type} (r : Report α) : Bool :=
  r.rejected.isEmpty

/-- Reads lines numbered from `n`. -/
def inspectLines {α : Type} [LineRecord α] (k : ChecksumKey) : Nat → List String → Report α
  | _, [] => ⟨[], []⟩
  | n, raw :: rest =>
    let r := inspectLines k (n + 1) rest
    let line := trimLine raw
    if line.isEmpty then r
    else
      match LineRecord.decode k line with
      | .ok e => { r with entries := e :: r.entries }
      | .error err => { r with rejected := ⟨n, line, err⟩ :: r.rejected }

/-- The lines of a text, split at line feeds only. -/
def splitLines (text : String) : List String :=
  (text.toList.splitOn '\n').map String.ofList

/-- Reads a document, keeping every refused line. -/
def inspect {α : Type} [LineRecord α] (k : ChecksumKey) (text : String) : Report α :=
  inspectLines k 1 (splitLines text)

/-- Reads a document, dropping the lines that do not decode. -/
def decodeDocument {α : Type} [LineRecord α] (k : ChecksumKey) (text : String) : List α :=
  (inspect k text).entries

end ScoreKeeper
