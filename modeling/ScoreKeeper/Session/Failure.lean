import ScoreKeeper.Codec.Error
import ScoreKeeper.Json.Value

/-!
# ScoreKeeper — failed requests

A request of the session interface answers a JSON value or a `Failure`: the name of the error's
kind and its message. Errors of the library name their kind by their constructor, and an error
that wraps another appends the inner kind after a dot (`InvalidField.Empty`). `BadInput` is the
session's own refusal of a request it cannot read.
-/

namespace ScoreKeeper

/-- A failed request or step. -/
structure Failure where
  kind : String
  message : String
  extra : List (String × Json) := []

/-- The session refuses a request it cannot read. -/
def Failure.badInput (message : String) : Failure :=
  ⟨"BadInput", message, []⟩

/-- The kind of a field error. -/
def FieldError.kindName : FieldError → String
  | .empty _ => "Empty"
  | .tooLong .. => "TooLong"
  | .forbiddenChar .. => "ForbiddenChar"
  | .trailingSpace _ => "TrailingSpace"
  | .invalidTopic .. => "InvalidTopic"

/-- The kind of a codec error. -/
def CodecError.kindName : CodecError → String
  | .lineTooLong .. => "LineTooLong"
  | .fieldCount .. => "FieldCount"
  | .invalidNumber .. => "InvalidNumber"
  | .invalidField e => "InvalidField." ++ e.kindName
  | .checksumMismatch .. => "ChecksumMismatch"
  | .weakSecret _ => "WeakSecret"

/-- A field error as a failure. -/
def FieldError.toFailure (e : FieldError) : Failure :=
  ⟨e.kindName, e.message, []⟩

/-- A codec error as a failure. -/
def CodecError.toFailure (e : CodecError) : Failure :=
  ⟨e.kindName, e.message, []⟩

/-- The answer of a request or step. -/
abbrev Outcome := Except Failure

/-- Lifts a field check into an answer. -/
def liftField {α : Type} (r : Except FieldError α) : Outcome α :=
  r.mapError FieldError.toFailure

/-- Lifts a codec step into an answer. -/
def liftCodec {α : Type} (r : Except CodecError α) : Outcome α :=
  r.mapError CodecError.toFailure

/-- The JSON form of an answer: `{"ok": value}`, or the error object. -/
def Outcome.toJson : Outcome Json → Json
  | .ok v => .obj [("ok", v)]
  | .error f => .obj ([("error", .str f.kind), ("message", .str f.message)] ++ f.extra)

/-- The JSON form of a step inside a sequence: its value, or the error object. -/
def Outcome.stepJson : Outcome Json → Json
  | .ok v => v
  | .error f => .obj ([("error", .str f.kind), ("message", .str f.message)] ++ f.extra)

end ScoreKeeper
