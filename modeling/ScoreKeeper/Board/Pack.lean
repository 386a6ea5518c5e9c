import ScoreKeeper.Record.Score

/-!
# ScoreKeeper — packs

A pack is a feed of lines, newest first, at most 128 long. `Pack.push` puts a line in front and
drops the oldest lines past the limit, reporting how many it dropped. A pack built from a list
(`ofList`) is taken as it is.
-/

namespace ScoreKeeper

/-- The most lines a pack holds. -/
def maxPackEntries : Nat := 128

/-- A feed of lines, newest first. -/
structure Pack where
  entries : List Note
  deriving DecidableEq

/-- A pack holding lines as given. -/
def Pack.ofList (entries : List Note) : Pack :=
  ⟨entries⟩

/-- The number of lines. -/
def Pack.size (p : Pack) : Nat :=
  p.entries.length

/-- Puts a line in front; answers how many old lines fell off the end. -/
def Pack.push (p : Pack) (n : Note) : Nat × Pack :=
  let xs := n :: p.entries
  (xs.length - maxPackEntries, ⟨xs.take maxPackEntries⟩)

/-- The newest line. -/
def Pack.latest? (p : Pack) : Option Note :=
  p.entries.head?

end ScoreKeeper
