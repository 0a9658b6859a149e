import SessionSync.Disk.Replace
import SessionSync.Log.Filter

/-!
# The journal

The log is kept in a directory of its own, in one file a day. A process opens it once.
-/

namespace SessionSync.Log

/-- The directory of the log in the data directory. -/
def folderName : String := "logs"

/-- The name of the file of a day. -/
def fileName (date : String) : String :=
  s!"reconcilor.log.{date}"

/-- Why there is no log. -/
inductive JournalError
  /-- The file system refused. -/
  | disk
  /-- The process keeps a log already. -/
  | alreadyOpen
  deriving Repr, DecidableEq

/-- A log that is open. -/
structure Journal where
  /-- What is kept. -/
  filter : Filter
  deriving Repr, DecidableEq

/-- The data directory with the file of a day in the directory of the log. -/
def makeFile (disk : Disk) (date : String) : Option Folder :=
  let folder := disk.getD []
  match folder.get? folderName with
  | some (.file _) => none
  | some (.folder entries) =>
    let entries : Folder := entries
    some (folder.put folderName
      (.folder (if entries.names.contains (fileName date) then entries
        else entries.put (fileName date) (.file []))))
  | none => some (folder.put folderName (.folder [(fileName date, .file [])]))

/-- Opens the log at a day. What is already open is told by `current`. -/
def openJournal (current : Option Journal) (disk : Disk) (date level : String)
    (asked : Option String) : Except JournalError Journal × Disk :=
  match makeFile disk date with
  | none => (.error .disk, disk)
  | some folder =>
    match current with
    | some _ => (.error .alreadyOpen, some folder)
    | none => (.ok ⟨Filter.inForce level asked⟩, some folder)

end SessionSync.Log
