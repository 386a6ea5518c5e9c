/-!
# ScoreKeeper — JSON values

The JSON trees that requests, answers and served documents are made of. Objects keep their
members in the order given, since served documents and printed reports fix the order of their
fields. Integers are exact; a number with a fraction or an exponent keeps its text.
-/

namespace ScoreKeeper

/-- A JSON value. -/
inductive Json where
  | null
  | bool (b : Bool)
  | int (n : Int)
  | real (text : String)
  | str (s : String)
  | arr (items : List Json)
  | obj (members : List (String × Json))
  deriving Inhabited, Repr

namespace Json

/-- The value of an object's first member with a key. -/
def field? (j : Json) (key : String) : Option Json :=
  match j with
  | .obj ms => (ms.find? fun m => m.1 = key).map (·.2)
  | _ => none

/-- The string of a string value. -/
def str? : Json → Option String
  | .str s => some s
  | _ => none

/-- The integer of an integer value. -/
def int? : Json → Option Int
  | .int n => some n
  | _ => none

/-- The truth value of a boolean value. -/
def bool? : Json → Option Bool
  | .bool b => some b
  | _ => none

/-- The items of an array value. -/
def arr? : Json → Option (List Json)
  | .arr xs => some xs
  | _ => none

/-- The members of an object value. -/
def obj? : Json → Option (List (String × Json))
  | .obj ms => some ms
  | _ => none

/-- Whether a value is `null`. -/
def isNull : Json → Bool
  | .null => true
  | _ => false

/-- A natural number. -/
def nat (n : Nat) : Json :=
  .int n

/-- A string, or `null`. -/
def optStr : Option String → Json
  | some s => .str s
  | none => .null

end Json

end ScoreKeeper
