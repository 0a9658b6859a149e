import SessionSync.CommandLine.Session
import SessionSync.Log.Date
import SessionSync.Simulation.Serving
import SessionSync.Url.Basic

/-!
# The program

The outer layer: it reads a directory of the file system into a tree of folders, has the library do
what the arguments ask for, and writes what has changed.
-/

open SessionSync

namespace SessionSync.Program

/-- Reads a file or a directory. -/
partial def readNode (path : String) : IO Node := do
  let found ← IO.FS.realPath path
  if ← found.isDir then
    let entries ← found.readDir
    let nodes ← entries.toList.mapM fun e => do
      return (e.fileName, ← readNode (joinPath path e.fileName))
    return .folder nodes
  else
    return .file (← IO.FS.readBinFile path).toList

/-- Writes a file or a directory. -/
partial def writeNode (path : String) : Node → IO Unit
  | .file bytes => IO.FS.writeBinFile path ⟨bytes.toArray⟩
  | .folder entries => do
    IO.FS.createDirAll path
    for (name, node) in entries do
      writeNode (joinPath path name) node

/-- Removes what has gone from a directory and writes the rest. -/
def writeFolder (path : String) (before after : Folder) : IO Unit := do
  for name in before.names do
    unless after.names.contains name do
      IO.FS.removeFile (joinPath path name)
  writeNode path (.folder after)

/-- Reads a directory, if it exists. -/
def readFolder? (path : String) : IO (Option Folder) := do
  try
    match ← readNode path with
    | .folder entries => return some entries
    | .file _ => return none
  catch _ => return none

/-- Reads the directory at the end of a path, and of those on the way to it only what leads there.
-/
def readAlong (here : String) : Path → IO Folder
  | [] => return (← readFolder? here).getD []
  | name :: rest => do
    let next := joinPath here name
    try
      if ← (← IO.FS.realPath next).isDir then
        return [(name, .folder (← readAlong next rest))]
      else
        return [(name, .file [])]
    catch _ => return []

/-- Keeps the session in step; time passes second by second. -/
partial def serve (path : String) (w : World) : IO Unit := do
  IO.sleep 1000
  let before := (← readFolder? path).getD []
  let w := ((w.onDisk fun _ => some before).advance 1).settle
  writeFolder path before (w.disk.getD [])
  serve path w

/-- Prints the message of a process that failed. -/
def fail (message : String) : IO UInt32 := do
  IO.eprintln s!"Error: {message}"
  return 1

/-- How the program is used. -/
def usage : String :=
  "Usage: [--data-dir DIR] [run | add-account EMAIL TOKEN | remove-account EMAIL | list-accounts]"

/-- The seconds since the start of 1970, as the file system dates a new file. -/
def clock : IO Nat := do
  let (_, path) ← IO.FS.createTempFile
  let seconds := (← path.metadata).modified.sec
  IO.FS.removeFile path
  return seconds.toNat

/-- Carries out a command in the directory that it names or that the surroundings name. -/
def runCommand (s : CommandLine.Surroundings) (named : Option String) (arguments : List String) :
    IO UInt32 := do
  let text := (named <|> s.places.dataFolder?).getD ""
  let path := (makeFolders [] text).1.getD []
  let root ← readAlong (if text.toList.head? = some '/' then "/" else ".") path
  let before := (root.folderAt? path).getD []
  let (result, after) := CommandLine.run Url.webScheme? root s arguments
  match after.folderAt? path with
  | some folder => writeFolder text before folder
  | none => pure ()
  match result with
  | .usage _ => return 2
  | .finished lines =>
    lines.forM IO.println
    return 0
  | .failed e => fail e.message
  | .serving _ config =>
    match World.serving (after.folderAt? path) config s.now with
    | (.error _, _) => fail CommandLine.AccountError.load.message
    | (.ok w, _) =>
      serve text w
      return 0

/-- Does what the arguments ask for. -/
def run (arguments : List String) : IO UInt32 := do
  let places : Places := {
    dataFolder := ← IO.getEnv "ACCOUNT_RECONCILOR_DATA_DIR"
    dataHome := ← IO.getEnv "XDG_DATA_HOME"
    home := ← IO.getEnv "HOME" }
  let seconds ← clock
  let s : CommandLine.Surroundings := {
    places
    logFilter := ← IO.getEnv "RUST_LOG"
    date := Log.dateOf seconds
    now := Int64.ofNat seconds }
  match CommandLine.parse arguments with
  | .help =>
    IO.println usage
    return 0
  | .invalid =>
    IO.eprintln usage
    return 2
  | .command named _ => runCommand s named arguments

end SessionSync.Program

/-- The program. -/
def main (arguments : List String) : IO UInt32 :=
  SessionSync.Program.run arguments
