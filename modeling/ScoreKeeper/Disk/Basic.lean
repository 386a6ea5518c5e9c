import ScoreKeeper.Os.Error

/-!
# ScoreKeeper — a disk of files and directories

A disk maps absolute paths, as lists of components, to files (their bytes) or directories; the
root always exists and is a directory. Operations resolve a path the way a POSIX kernel does:
every component before the last must be a directory (a missing one is `notFound`, a file is
`notADirectory`), and the last one is then read, written or created by the operation's own
rules. `Disk.resolve` turns a path text into components against a working directory.
-/

namespace ScoreKeeper

/-- An absolute path, as its components from the root. -/
abbrev Path := List String

/-- What a path holds. -/
inductive Node where
  | file (bytes : List UInt8)
  | dir
  deriving DecidableEq, Repr

/-- Files and directories by path. -/
structure Disk where
  nodes : List (Path × Node)
  deriving DecidableEq

namespace Disk

/-- The empty disk: the root directory alone. -/
def empty : Disk := ⟨[]⟩

/-- What a path holds, if it exists. -/
def node? (d : Disk) (p : Path) : Option Node :=
  if p.isEmpty then some .dir else (d.nodes.find? fun e => e.1 = p).map (·.2)

/-- Sets what a path holds, replacing what it held. -/
def put (d : Disk) (p : Path) (n : Node) : Disk :=
  ⟨(d.nodes.filter fun e => e.1 ≠ p) ++ [(p, n)]⟩

/-- Checks that every proper prefix of a path is a directory. -/
def checkParents (d : Disk) (p : Path) : Except OsError Unit :=
  go (p.length - 1) 1
where
  /-- Checks prefixes of length `k` up to `k + n - 1`. -/
  go : Nat → Nat → Except OsError Unit
    | 0, _ => .ok ()
    | n + 1, k =>
      match d.node? (p.take k) with
      | none => .error .notFound
      | some (.file _) => .error .notADirectory
      | some .dir => go n (k + 1)

/-- The bytes of a file. -/
def readFile (d : Disk) (p : Path) : Except OsError (List UInt8) := do
  d.checkParents p
  match d.node? p with
  | none => throw .notFound
  | some .dir => throw .isADirectory
  | some (.file b) => pure b

/-- Creates or replaces a file. -/
def writeFile (d : Disk) (p : Path) (bytes : List UInt8) : Except OsError Disk := do
  d.checkParents p
  match d.node? p with
  | some .dir => throw .isADirectory
  | _ => pure (d.put p (.file bytes))

/-- Creates one directory. -/
def createDir (d : Disk) (p : Path) : Except OsError Disk := do
  d.checkParents p
  match d.node? p with
  | some _ => throw .alreadyExists
  | none => pure (d.put p .dir)

/-- Creates a directory and any missing directories above it; a directory that exists is fine.
A file on the way fails: `alreadyExists` when it is the path itself, else `notADirectory`. -/
def createDirAll (d : Disk) (p : Path) : Except OsError Disk :=
  go d 1 p.length
where
  /-- Makes sure the prefixes of length `k` to `k + n - 1` are directories. -/
  go (d : Disk) : Nat → Nat → Except OsError Disk
    | _, 0 => .ok d
    | k, n + 1 =>
      match d.node? (p.take k) with
      | some .dir => go d (k + 1) n
      | some (.file _) => .error (if n = 0 then .alreadyExists else .notADirectory)
      | none => go (d.put (p.take k) .dir) (k + 1) n

/-- The entries directly inside a directory, with what they hold, in the order they were made. -/
def readDir (d : Disk) (p : Path) : Except OsError (List (String × Node)) := do
  d.checkParents p
  match d.node? p with
  | none => throw .notFound
  | some (.file _) => throw .notADirectory
  | some .dir =>
    pure (d.nodes.filterMap fun e =>
      match e.1.drop p.length with
      | [name] => if e.1.take p.length = p then some (name, e.2) else none
      | _ => none)

/-- The components of a path text against a working directory: a leading `/` starts at the root,
empty and `.` components are dropped and `..` goes one level up. -/
def resolve (cwd : Path) (text : String) : Path :=
  let parts := (text.toList.splitOn '/').map String.ofList
  let start := if text.startsWith "/" then [] else cwd
  (parts.foldl (fun acc part =>
    if part = "" || part = "." then acc
    else if part = ".." then acc.dropLast
    else acc ++ [part]) start)

/-- The text of an absolute path. -/
def showPath (p : Path) : String :=
  "/" ++ String.intercalate "/" p

end Disk

end ScoreKeeper
