import ScoreKeeper.Tool.Run

/-!
# ScoreKeeper — the command line

`main` runs one command line of the tool on this machine. The run itself is `execute`, on a
snapshot of what the command reads from the file system: the directories down to the working
directory, the store's directory two levels deep, the file to verify, and the configuration file
and data directory of the server. What the run changes in the snapshot is written back.

A command line that cannot be read prints its text, on standard output for help and version and
on standard error otherwise, and exits with its status. A run prints what it printed; a failed one
then prints its report on standard error and exits with 1.

Serving and HTTP requests are those of `execute`: the server announces itself and stops, and a
request to a server fails as a connection without a route does.
-/

namespace ScoreKeeper.Tool

open Cli

/-- The snapshot with a path as the file system holds it: a file's bytes, or a directory and,
`depth` levels down, what it holds. A path that does not exist, or cannot be read, adds nothing. -/
def loadPath : Nat → Path → Disk → IO Disk
  | depth, p, d => do
    let fp := (← IO.currentDir) / Disk.showPath p
    if ← fp.isDir then
      let d := d.put p .dir
      match depth with
      | 0 => pure d
      | n + 1 => (← fp.readDir).foldlM (fun d e => loadPath n (p ++ [e.fileName]) d) d
    else if ← fp.pathExists then
      try pure (d.put p (.file (← IO.FS.readBinFile fp).toList))
      catch _ => pure d
    else pure d

/-- The snapshot with a path, and every directory on the way to it, as the file system holds
them. -/
def loadWithParents (p : Path) (depth : Nat) (d : Disk) : IO Disk := do
  let d ← ((List.range p.length).drop 1).foldlM (fun d k => loadPath 0 (p.take k) d) d
  loadPath depth p d

/-- The machine a command line runs on: the working directory and what the command reads. -/
def snapshot (inv : Invocation) (cwd : Path) : IO Machine := do
  let d ← loadWithParents cwd 0 Disk.empty
  let m : Machine := ⟨d, cwd, []⟩
  let d ← match inv.command with
    | .show .. | .add .. | .list .. =>
      if inv.options.server.isSome then pure d
      else loadWithParents (m.resolve (inv.options.root.getD "data")) 2 d
    | .verify file _ => loadWithParents (m.resolve file) 0 d
    | .serve bind config => do
      let d ← match config with
        | some c => loadWithParents (m.resolve c) 0 d
        | none => pure d
      match ({ m with disk := d } : Machine).serveConfig bind config inv.options.root inv.options.secret with
      | .ok c => loadWithParents (m.resolve c.dataRoot) 0 d
      | .error _ => pure d
    | .sign .. => pure d
  pure { m with disk := d }

/-- Writes to the file system what a run changed: new directories first, then new or changed
files. -/
def writeBack (before after : Disk) : IO Unit := do
  let changed := after.nodes.filter fun e => before.node? e.1 ≠ some e.2
  for e in changed do
    if e.2 = .dir then IO.FS.createDirAll ((← IO.currentDir) / Disk.showPath e.1)
  for e in changed do
    match e.2 with
    | .file bytes => IO.FS.writeBinFile ((← IO.currentDir) / Disk.showPath e.1) (ByteArray.mk bytes.toArray)
    | .dir => pure ()

/-- Runs one command line: its exit status. -/
def runMain (args : List String) : IO UInt32 := do
  match Invocation.read args with
  | .error e =>
    if e.kind.exitCode = 0 then IO.print e.text else IO.eprint e.text
    pure (UInt32.ofNat e.kind.exitCode)
  | .ok none => pure 0
  | .ok (some inv) =>
    let cwd := Disk.resolve [] (← IO.currentDir).toString
    let m ← snapshot inv cwd
    let run := execute inv m
    writeBack m.disk run.machine.disk
    IO.print run.stdout
    match run.outcome with
    | .ok () => pure 0
    | .error r =>
      IO.eprint r.render
      pure 1

end ScoreKeeper.Tool

/-- Runs the command line of the tool. -/
def main (args : List String) : IO UInt32 :=
  ScoreKeeper.Tool.runMain args
