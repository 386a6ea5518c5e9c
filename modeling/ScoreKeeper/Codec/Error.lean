import ScoreKeeper.Record.Field

/-!
# ScoreKeeper — line codec errors

Why a line fails to decode, or why a checksum secret is refused. The checks of a line run in a
fixed order, and the error names the first one that fails: its length, its number of fields, a
number field, a text field, and last the checksum itself.
-/

namespace ScoreKeeper

/-- The two number fields of lines. -/
inductive NumberField where
  | score
  | checksum
  deriving DecidableEq, Repr

/-- The field's name in messages. -/
def NumberField.label : NumberField → String
  | .score => "score"
  | .checksum => "checksum"

/-- Why a line does not decode, or a secret is refused. -/
inductive CodecError where
  | lineTooLong (len max : Nat)
  | fieldCount (expected actual : Nat)
  | invalidNumber (field : NumberField) (value : String)
  | invalidField (e : FieldError)
  | checksumMismatch (stored computed : UInt64)
  | weakSecret (secret : UInt64)
  deriving DecidableEq, Repr

/-- The wording of a codec error. -/
def CodecError.message : CodecError → String
  | .lineTooLong len max => s!"line too long: {len} bytes, max {max}"
  | .fieldCount e a => s!"expected {e} fields, got {a}"
  | .invalidNumber f v => "invalid " ++ f.label ++ " number: " ++ Text.quoteString v
  | .invalidField e => "invalid field: " ++ e.message
  | .checksumMismatch s c => s!"checksum mismatch: stored {s.toNat}, computed {c.toNat}"
  | .weakSecret s => s!"checksum secret {s.toNat} must be odd"

end ScoreKeeper
