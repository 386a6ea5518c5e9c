import ScoreKeeper.Session.Failure
import ScoreKeeper.Checksum
import ScoreKeeper.Topic
import ScoreKeeper.Text.Integer
import ScoreKeeper.Text.Hex
import ScoreKeeper.Text.Utf8

/-!
# ScoreKeeper — reading request fields

A request is a JSON object. A required field that is absent refuses the request with
`missing field "name"`; a field of the wrong type with `field "name" must be ...`. A `null`
optional field counts as absent. Secrets are decimal strings or JSON integers in the 64-bit
range; an absent secret is the default one.
-/

namespace ScoreKeeper.Session

/-- Refuses a request for lacking a field. -/
def missing (key : String) : Failure :=
  .badInput ("missing field " ++ Text.quoteString key)

/-- Refuses a request for a field of the wrong type. -/
def mistyped (key what : String) : Failure :=
  .badInput ("field " ++ Text.quoteString key ++ " must be " ++ what)

/-- A field that must be present. -/
def need (j : Json) (key : String) : Outcome Json :=
  match j.field? key with
  | some v => pure v
  | none => throw (missing key)

/-- A field that may be absent or null. -/
def maybe (j : Json) (key : String) : Option Json :=
  match j.field? key with
  | some .null => none
  | v => v

/-- A string field. -/
def needStr (j : Json) (key : String) : Outcome String := do
  match ← need j key with
  | .str s => pure s
  | _ => throw (mistyped key "a string")

/-- An optional string field. -/
def maybeStr (j : Json) (key : String) : Outcome (Option String) :=
  match maybe j key with
  | none => pure none
  | some (.str s) => pure (some s)
  | some _ => throw (mistyped key "a string")

/-- A boolean field. -/
def needBool (j : Json) (key : String) : Outcome Bool := do
  match ← need j key with
  | .bool b => pure b
  | _ => throw (mistyped key "a boolean")

/-- An optional boolean field. -/
def maybeBool (j : Json) (key : String) : Outcome (Option Bool) :=
  match maybe j key with
  | none => pure none
  | some (.bool b) => pure (some b)
  | some _ => throw (mistyped key "a boolean")

/-- An array field. -/
def needArr (j : Json) (key : String) : Outcome (List Json) := do
  match ← need j key with
  | .arr xs => pure xs
  | _ => throw (mistyped key "an array")

/-- An optional array field. -/
def maybeArr (j : Json) (key : String) : Outcome (Option (List Json)) :=
  match maybe j key with
  | none => pure none
  | some (.arr xs) => pure (some xs)
  | some _ => throw (mistyped key "an array")

/-- An integer field. -/
def needInt (j : Json) (key : String) : Outcome Int := do
  match ← need j key with
  | .int n => pure n
  | _ => throw (mistyped key "an integer")

/-- An integer field in the 32-bit signed range. -/
def needInt32 (j : Json) (key : String) : Outcome Int32 := do
  let n ← needInt j key
  if -Int.pow 2 31 ≤ n && n < Int.pow 2 31 then pure (Int32.ofInt n)
  else throw (.badInput ("field " ++ Text.quoteString key ++ " out of i32 range"))

/-- A non-negative integer field. -/
def needNat (j : Json) (key : String) : Outcome Nat := do
  let n ← needInt j key
  if 0 ≤ n then pure n.toNat
  else throw (.badInput ("field " ++ Text.quoteString key ++ " out of usize range"))

/-- An optional non-negative integer field. -/
def maybeNat (j : Json) (key : String) : Outcome (Option Nat) :=
  match maybe j key with
  | none => pure none
  | some _ => some <$> needNat j key

/-- A 64-bit word given as a decimal string or an integer. -/
def wordOf (key : String) : Json → Outcome UInt64
  | .str s =>
    if s.isEmpty || !s.toList.all Char.isDigit then throw (mistyped key "a decimal string")
    else match Text.readU64 s with
      | .ok n => pure (UInt64.ofNat n)
      | .error _ => throw (.badInput ("field " ++ Text.quoteString key ++ " out of u64 range"))
  | .int n =>
    if 0 ≤ n && n < Int.pow 2 64 then pure (UInt64.ofNat n.toNat)
    else throw (.badInput ("field " ++ Text.quoteString key ++ " out of u64 range"))
  | _ => throw (mistyped key "a decimal string")

/-- A word field that must be present. -/
def needWord (j : Json) (key : String) : Outcome UInt64 := do
  wordOf key (← need j key)

/-- An optional word field. -/
def maybeWord (j : Json) (key : String) : Outcome (Option UInt64) :=
  match maybe j key with
  | none => pure none
  | some v => some <$> wordOf key v

/-- The checksum key of a request field, or the default key when it is absent. An even secret
fails. -/
def keyOf (j : Json) (key : String) : Outcome ChecksumKey := do
  match ← maybeWord j key with
  | none => pure ChecksumKey.default
  | some w => liftCodec (ChecksumKey.make? w)

/-- The document kind a field names. -/
def kindOf (j : Json) (key : String) : Outcome Kind := do
  match ← needStr j key with
  | "leaderboard" => pure .leaderboard
  | "pack" => pure .pack
  | other => throw (.badInput ("unknown kind " ++ Text.quoteString other))

/-- Bytes given as `text` or as `hex` pairs. -/
def bytesOf (j : Json) : Outcome (List UInt8) := do
  match ← maybeStr j "text" with
  | some t => pure (Text.utf8 t)
  | none =>
    let h ← needStr j "hex"
    match Text.readHex h.toList with
    | some bs => pure bs
    | none => throw (.badInput "bad hex")

end ScoreKeeper.Session
