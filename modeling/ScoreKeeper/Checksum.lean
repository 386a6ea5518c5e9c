import ScoreKeeper.Record.Score
import ScoreKeeper.Text.Utf8
import ScoreKeeper.Codec.Error

/-!
# ScoreKeeper — checksums

Every stored line carries a checksum of its record under a shared odd secret. The accumulator
starts at the secret; for a score it is first multiplied by the points sign-extended to 64 bits;
then each UTF-8 byte `b` of the name (or of the pack line) is folded in as `acc * 33 + b`. All
arithmetic wraps modulo 2^64. An even secret would lose the high bits of the points, so it is
refused.
-/

namespace ScoreKeeper

/-- A checksum secret: an odd 64-bit word. -/
structure ChecksumKey where
  secret : UInt64
  odd : secret % 2 = 1

/-- Two keys are equal when their secrets are. -/
instance : DecidableEq ChecksumKey := fun a b =>
  if h : a.secret = b.secret then
    isTrue (by cases a; cases b; simp_all)
  else
    isFalse (by intro e; subst e; exact h rfl)

/-- The secret used when none is configured. -/
def defaultSecret : UInt64 := 0x2545F4914F6CDD1D

/-- The key with the default secret. -/
def ChecksumKey.default : ChecksumKey := ⟨defaultSecret, by decide⟩

/-- A key for a secret, refused when the secret is even. -/
def ChecksumKey.make? (secret : UInt64) : Except CodecError ChecksumKey :=
  if h : secret % 2 = 1 then .ok ⟨secret, h⟩ else .error (.weakSecret secret)

/-- Folds bytes into an accumulator: `acc * 33 + b` for each byte, wrapping. -/
def foldBytes (acc : UInt64) (bytes : List UInt8) : UInt64 :=
  bytes.foldl (fun acc b => acc * 33 + b.toUInt64) acc

/-- Points sign-extended to a 64-bit word. -/
def widenPoints (p : Int32) : UInt64 :=
  p.toInt64.toUInt64

/-- The checksum of a score: the secret times the points, then the name's bytes. -/
def ChecksumKey.ofScore (k : ChecksumKey) (s : Score) : UInt64 :=
  foldBytes (k.secret * widenPoints s.points) (Text.utf8 s.name)

/-- The checksum of a pack line: the secret, then the text's bytes. -/
def ChecksumKey.ofNote (k : ChecksumKey) (n : Note) : UInt64 :=
  foldBytes k.secret (Text.utf8 n.text)

end ScoreKeeper
