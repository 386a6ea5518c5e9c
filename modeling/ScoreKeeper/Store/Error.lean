import ScoreKeeper.Codec.Error
import ScoreKeeper.Os.Error

/-!
# ScoreKeeper — store errors

A store operation fails because a submitted line is refused by the codec, or because the storage
under it failed.
-/

namespace ScoreKeeper

/-- Why a store operation failed. -/
inductive StoreError where
  | rejected (e : CodecError)
  | io (e : OsError)
  deriving DecidableEq, Repr

/-- The wording of a store error. -/
def StoreError.message : StoreError → String
  | .rejected e => "entry rejected: " ++ e.message
  | .io e => "I/O error: " ++ e.message

/-- Whether the error is a refused line rather than a storage failure. -/
def StoreError.isRejected : StoreError → Bool
  | .rejected _ => true
  | .io _ => false

end ScoreKeeper
