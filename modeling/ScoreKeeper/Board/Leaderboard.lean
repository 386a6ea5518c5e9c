import ScoreKeeper.Record.Score

/-!
# ScoreKeeper — leaderboards

A leaderboard is a list of scores, best first, at most one per player and at most 999 long.
`Leaderboard.add` keeps those rules whatever list it starts from: it first keeps only the first
score of the player it adds, then replaces that score if the new one is strictly higher, keeps it
otherwise, or inserts a new player's score after all scores at least as high (so ties keep their
arrival order), and last cuts the list to 999 scores. A board built from a list (`ofList`, as read
from a document) is taken as it is: neither sorted, nor deduplicated, nor cut.
-/

namespace ScoreKeeper

/-- The most scores a leaderboard holds. -/
def maxEntries : Nat := 999

/-- What adding a score did: a new player took a place; the player's score rose from `previous`;
the player's `existing` score was at least as high and stays; or a new player ranked below the
last place and was dropped. -/
inductive AddOutcome where
  | inserted
  | improved (previous : Int32)
  | kept (existing : Int32)
  | overflowed
  deriving DecidableEq, Repr

/-- Whether the added score is on the board afterwards. -/
def AddOutcome.accepted : AddOutcome → Bool
  | .inserted | .improved _ => true
  | .kept _ | .overflowed => false

/-- A ranked list of scores. -/
structure Leaderboard where
  entries : List Score
  deriving DecidableEq

/-- A board holding scores as given. -/
def Leaderboard.ofList (entries : List Score) : Leaderboard :=
  ⟨entries⟩

/-- The number of scores. -/
def Leaderboard.size (b : Leaderboard) : Nat :=
  b.entries.length

/-- Keeps the first score of a player and drops the others. -/
def keepFirst (name : String) : List Score → List Score
  | [] => []
  | e :: rest =>
    if e.name = name then e :: rest.filter (fun x => x.name ≠ name)
    else e :: keepFirst name rest

/-- Inserts a score before the first strictly lower one. -/
def insertByPoints (e : Score) : List Score → List Score
  | [] => [e]
  | x :: xs => if x.points < e.points then e :: x :: xs else x :: insertByPoints e xs

/-- Where `insertByPoints` puts a score: after every score at least as high that leads the list. -/
def insertIndex (e : Score) (xs : List Score) : Nat :=
  (xs.takeWhile fun x => !decide (x.points < e.points)).length

/-- Adds a score by the board's rules and says what happened. -/
def Leaderboard.add (b : Leaderboard) (e : Score) : AddOutcome × Leaderboard :=
  let xs := keepFirst e.name b.entries
  match xs.find? (fun x => x.name = e.name) with
  | some old =>
    if old.points < e.points then
      (.improved old.points,
        ⟨(insertByPoints e (xs.filter fun x => x.name ≠ e.name)).take maxEntries⟩)
    else (.kept old.points, ⟨xs.take maxEntries⟩)
  | none =>
    (if insertIndex e xs < maxEntries then .inserted else .overflowed,
      ⟨(insertByPoints e xs).take maxEntries⟩)

/-- The first score of a player. -/
def Leaderboard.get? (b : Leaderboard) (name : String) : Option Score :=
  b.entries.find? fun x => x.name = name

/-- The 1-based place of a player's first score. -/
def Leaderboard.rankOf? (b : Leaderboard) (name : String) : Option Nat :=
  (b.entries.findIdx? fun x => x.name = name).map (· + 1)

/-- The first `n` scores, or all when there are fewer. -/
def Leaderboard.top (b : Leaderboard) (n : Nat) : List Score :=
  b.entries.take n

end ScoreKeeper
