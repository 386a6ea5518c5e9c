import ScoreKeeper.Record.Field

/-!
# ScoreKeeper — topics

A topic addresses one stored document: its kind (a leaderboard or a pack) and a name of 1 to 64
bytes of ASCII letters, digits, `-` and `_`, so that a name is always one plain path component.
The text form is `highscore/<name>` or `pack/<name>`; `Topic.parse` also takes a bare name as a
leaderboard. Topics are ordered by kind, leaderboards first, then by name.
-/

namespace ScoreKeeper

/-- The two kinds of document. -/
inductive Kind where
  | leaderboard
  | pack
  deriving DecidableEq, Repr

/-- The prefix of a kind in topic texts and in storage paths. -/
def Kind.pfx : Kind → String
  | .leaderboard => "highscore"
  | .pack => "pack"

/-- The kind's name in serialized forms. -/
def Kind.label : Kind → String
  | .leaderboard => "leaderboard"
  | .pack => "pack"

/-- Leaderboards come before packs. -/
def Kind.rank : Kind → Nat
  | .leaderboard => 0
  | .pack => 1

/-- Both kinds, in order. -/
def Kind.all : List Kind := [.leaderboard, .pack]

/-- The most bytes a topic name may have. -/
def topicMaxBytes : Nat := 64

/-- Characters a topic name may hold. -/
def isTopicChar (c : Char) : Bool :=
  c.isAlphanum || c = '-' || c = '_'

/-- The first fault of a topic name: empty, too long, then the first character not allowed. -/
def topicFault (name : String) : Option FieldError :=
  if name.isEmpty then some (.invalidTopic name .empty)
  else if topicMaxBytes < name.utf8ByteSize then some (.invalidTopic name .tooLong)
  else (name.toList.find? fun c => !isTopicChar c).map fun c => .invalidTopic name (.forbiddenChar c)

/-- Checks a topic name. -/
def validateTopicName (name : String) : Except FieldError Unit :=
  match topicFault name with
  | none => .ok ()
  | some e => .error e

/-- A document's address. -/
structure Topic where
  kind : Kind
  name : String
  valid : topicFault name = none

/-- Two topics are equal when their kinds and names are. -/
instance : DecidableEq Topic := fun a b =>
  if h : a.kind = b.kind ∧ a.name = b.name then
    isTrue (by cases a; cases b; simp_all)
  else
    isFalse (by intro e; subst e; exact h ⟨rfl, rfl⟩)

/-- Builds a topic, or names the fault of its name. -/
def Topic.make? (kind : Kind) (name : String) : Except FieldError Topic :=
  match h : topicFault name with
  | none => .ok ⟨kind, name, h⟩
  | some e => .error e

/-- The text form `<prefix>/<name>`. -/
def Topic.display (t : Topic) : String :=
  t.kind.pfx ++ "/" ++ t.name

/-- The kind whose prefix is a text. -/
def Kind.ofPrefix? (p : String) : Option Kind :=
  Kind.all.find? fun k => k.pfx = p

/-- Reads a topic: `<prefix>/<name>` with the prefix of a kind, or a bare name of a leaderboard.
Only the first `/` separates; a later one is part of the name and refused there. -/
def Topic.parse (s : String) : Except FieldError Topic :=
  match s.toList.splitOn '/' with
  | [] => Topic.make? .leaderboard s
  | [_] => Topic.make? .leaderboard s
  | p :: rest =>
    let pfx := String.ofList p
    match Kind.ofPrefix? pfx with
    | some k => Topic.make? k (String.intercalate "/" (rest.map String.ofList))
    | none => .error (.invalidTopic s (.unknownNamespace pfx))

/-- Topics in listing order: by kind, then by name. -/
def Topic.before (a b : Topic) : Bool :=
  a.kind.rank < b.kind.rank || (a.kind.rank = b.kind.rank && decide (a.name < b.name))

end ScoreKeeper
