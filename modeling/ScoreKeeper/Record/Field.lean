import ScoreKeeper.Text.Quoted

/-!
# ScoreKeeper — field and topic faults

A record's text field (a player's name, a pack line) must be non-empty, fit its byte limit, and
avoid the four characters that would break the line format: the field delimiter `~`, line feed,
carriage return and NUL. A topic name is 1 to 64 bytes of ASCII letters, digits, `-` and `_`.
`FieldError` names the first rule a value breaks; `FieldError.message` is its wording.
-/

namespace ScoreKeeper

/-- The field delimiter of the line format; never part of a field. -/
def delimiter : Char := '~'

/-- Characters no field may hold. -/
def forbiddenChars : List Char := [delimiter, '\n', '\r', '\x00']

/-- The two text fields of records. -/
inductive Field where
  | name
  | text
  deriving DecidableEq, Repr

/-- The field's name in messages. -/
def Field.label : Field → String
  | .name => "name"
  | .text => "text"

/-- Why a topic name is refused. -/
inductive TopicFault where
  | empty
  | tooLong
  | forbiddenChar (c : Char)
  | unknownNamespace (pfx : String)
  deriving DecidableEq, Repr

/-- Why a field value or a topic is refused. -/
inductive FieldError where
  | empty (field : Field)
  | tooLong (field : Field) (len max : Nat)
  | forbiddenChar (field : Field) (c : Char)
  | trailingSpace (field : Field)
  | invalidTopic (topic : String) (fault : TopicFault)
  deriving DecidableEq, Repr

/-- The wording of a topic fault. -/
def TopicFault.reason : TopicFault → String
  | .empty => "topic must not be empty"
  | .tooLong => "longer than 64 bytes"
  | .forbiddenChar c => "contains forbidden character: " ++ Text.quoteChar c
  | .unknownNamespace p => "unknown namespace " ++ Text.quoteString p

/-- The wording of a field error. -/
def FieldError.message : FieldError → String
  | .empty f => f.label ++ " must not be empty"
  | .tooLong f len max => s!"{f.label} too long: {len} bytes, max {max}"
  | .forbiddenChar f c => f.label ++ " contains forbidden character: " ++ Text.quoteChar c
  | .trailingSpace f => f.label ++ " must not end with a space"
  | .invalidTopic t fault => "invalid topic " ++ Text.quoteString t ++ ": " ++ fault.reason

/-- The first fault of a field value, checked in order: empty, longer than `max` bytes, a
forbidden character (the first one in the text). -/
def fieldFault (field : Field) (max : Nat) (value : String) : Option FieldError :=
  if value.isEmpty then some (.empty field)
  else if max < value.utf8ByteSize then some (.tooLong field value.utf8ByteSize max)
  else (value.toList.find? fun c => forbiddenChars.contains c).map (.forbiddenChar field)

end ScoreKeeper
