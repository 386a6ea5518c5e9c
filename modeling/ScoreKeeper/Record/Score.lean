import ScoreKeeper.Record.Field

/-!
# ScoreKeeper — scores and pack lines

The two kinds of record. A `Score` is a player's name with a 32-bit signed number of points; the
name is 1 to 16 bytes without a forbidden character. A `Note` is one line of a pack, 1 to 127
bytes without a forbidden character and not ending in a space. Both carry the proof that they
passed their check, so a record that exists can always be written out and read back.
-/

namespace ScoreKeeper

/-- The most bytes a player's name may have. -/
def nameMaxBytes : Nat := 16

/-- The most bytes a pack line may have. -/
def noteMaxBytes : Nat := 127

/-- A player's name with a score. -/
structure Score where
  name : String
  points : Int32
  valid : fieldFault .name nameMaxBytes name = none

/-- Two scores are equal when their names and points are. -/
instance : DecidableEq Score := fun a b =>
  if h : a.name = b.name ∧ a.points = b.points then
    isTrue (by cases a; cases b; simp_all)
  else
    isFalse (by intro e; subst e; exact h ⟨rfl, rfl⟩)

/-- Builds a score, or names the first fault of the name. -/
def Score.make? (name : String) (points : Int32) : Except FieldError Score :=
  match h : fieldFault .name nameMaxBytes name with
  | none => .ok ⟨name, points, h⟩
  | some e => .error e

/-- A score as text: `name (points)`. -/
def Score.display (s : Score) : String :=
  s!"{s.name} ({s.points.toInt})"

/-- The first fault of a pack line: a field fault, then a trailing space. -/
def noteFault (text : String) : Option FieldError :=
  match fieldFault .text noteMaxBytes text with
  | some e => some e
  | none => if text.toList.getLast? = some ' ' then some (.trailingSpace .text) else none

/-- One line of a pack. -/
structure Note where
  text : String
  valid : noteFault text = none

/-- Two notes are equal when their texts are. -/
instance : DecidableEq Note := fun a b =>
  if h : a.text = b.text then
    isTrue (by cases a; cases b; simp_all)
  else
    isFalse (by intro e; subst e; exact h rfl)

/-- Builds a pack line, or names the first fault of its text. -/
def Note.make? (text : String) : Except FieldError Note :=
  match h : noteFault text with
  | none => .ok ⟨text, h⟩
  | some e => .error e

end ScoreKeeper
