import ScoreKeeper.Store.Error
import ScoreKeeper.Disk.Basic
import ScoreKeeper.Topic

/-!
# ScoreKeeper — where documents are kept

A backend keeps each topic's bytes. The shelf keeps them in memory, can be told to fail every
write (for testing what a failed write does), and counts the writes that succeeded. The disk
backend keeps a topic in the file `<root>/<prefix>/<name>`: a missing file reads as no document,
a write goes to a fresh file in the topic's directory that then replaces the topic's file, and
preparing a topic creates its directory. Listing answers the topics of a kind sorted by name; on
disk it lists the files of the kind's directory whose names are topic names and ignores the rest.
-/

namespace ScoreKeeper

/-- Documents kept in memory. -/
structure Shelf where
  docs : List (Topic × List UInt8)
  failWrites : Bool
  writes : Nat

/-- The empty shelf. -/
def Shelf.empty : Shelf := ⟨[], false, 0⟩

/-- The bytes of a topic on the shelf. -/
def Shelf.lookup (s : Shelf) (t : Topic) : Option (List UInt8) :=
  (s.docs.find? fun e => e.1 = t).map (·.2)

/-- Sets a topic's bytes, without counting a write. -/
def Shelf.insert (s : Shelf) (t : Topic) (bytes : List UInt8) : Shelf :=
  { s with docs := (s.docs.filter fun e => e.1 ≠ t) ++ [(t, bytes)] }

/-- Where topics are kept. -/
inductive Backend where
  | shelf (s : Shelf)
  | disk (root : Path) (d : Disk)

/-- Topics sorted by name. -/
def sortTopics (ts : List Topic) : List Topic :=
  ts.mergeSort fun a b => decide (a.name ≤ b.name)

namespace Backend

/-- The directory of a kind under a root. -/
def kindDir (root : Path) (k : Kind) : Path :=
  root ++ [k.pfx]

/-- The file of a topic under a root. -/
def topicPath (root : Path) (t : Topic) : Path :=
  kindDir root t.kind ++ [t.name]

/-- The bytes of a topic, if it has any. -/
def read : Backend → Topic → Except StoreError (Option (List UInt8))
  | .shelf s, t => .ok (s.lookup t)
  | .disk root d, t =>
    match d.readFile (topicPath root t) with
    | .ok b => .ok (some b)
    | .error .notFound => .ok none
    | .error e => .error (.io e)

/-- Replaces the bytes of a topic. -/
def write : Backend → Topic → List UInt8 → Except StoreError Backend
  | .shelf s, t, bytes =>
    if s.failWrites then .error (.io (.other "injected write failure"))
    else .ok (.shelf { s.insert t bytes with writes := s.writes + 1 })
  | .disk root d, t, bytes =>
    let dir := kindDir root t.kind
    match d.checkParents (dir ++ [""]) with
    | .error e => .error (.io e)
    | .ok () =>
      match d.node? (topicPath root t) with
      | some .dir => .error (.io .isADirectory)
      | _ => .ok (.disk root (d.put (topicPath root t) (.file bytes)))

/-- Makes ready to write a topic: creates its directory on disk, if it can. -/
def prepare : Backend → Topic → Backend
  | .shelf s, _ => .shelf s
  | .disk root d, t =>
    match d.createDirAll (kindDir root t.kind) with
    | .ok d' => .disk root d'
    | .error _ => .disk root d

/-- The topics of a kind, sorted by name. -/
def list : Backend → Kind → Except StoreError (List Topic)
  | .shelf s, k => .ok (sortTopics ((s.docs.map (·.1)).filter fun t => t.kind = k))
  | .disk root d, k =>
    match d.readDir (kindDir root k) with
    | .error .notFound => .ok []
    | .error e => .error (.io e)
    | .ok entries =>
      .ok (sortTopics (entries.filterMap fun e =>
        match e.2 with
        | .file _ =>
          match Topic.make? k e.1 with
          | .ok t => some t
          | .error _ => none
        | .dir => none))

end Backend

end ScoreKeeper
