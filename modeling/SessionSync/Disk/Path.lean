import SessionSync.Disk.Folder
import SessionSync.Text.Pieces

/-!
# Paths

Directories within directories. A path is the list of names that lead from the root to a directory;
the text of one may also hold empty names and `.`, which lead nowhere, and `..`, which leads back.
-/

namespace SessionSync

/-- The names that lead to a directory. -/
abbrev Path := List String

namespace Folder

/-- The directory that a path leads to. -/
def folderAt? (root : Folder) : Path → Option Folder
  | [] => some root
  | name :: rest =>
    match root.get? name with
    | some (.folder entries) => folderAt? entries rest
    | _ => none

/-- Makes the directories along a path where they are missing. A file cannot be passed. -/
def makeAt? (root : Folder) : Path → Option Folder
  | [] => some root
  | name :: rest =>
    match root.get? name with
    | none => (makeAt? [] rest).map fun sub => root.put name (.folder sub)
    | some (.folder entries) => (makeAt? entries rest).map fun sub => root.put name (.folder sub)
    | some (.file _) => none

/-- Replaces the directory that a path leads to; a path that leads nowhere changes nothing. -/
def replaceAt (root : Folder) (path : Path) (folder : Folder) : Folder :=
  match path with
  | [] => folder
  | name :: rest =>
    match root.get? name with
    | some (.folder entries) => root.put name (.folder (replaceAt entries rest folder))
    | _ => root

end Folder

/-! ## Texts of paths -/

/-- The names in the text of a path. -/
def pathNames (text : String) : List String :=
  ((Text.pieces '/' text.toList).map String.ofList).filter fun name => name ≠ "" && name ≠ "."

/-- Makes the directories along the names of a text, going back at `..`. Gives the path at the end,
unless a file is in the way, and in any case what was made. -/
def makeAlong (root : Folder) (here : Path) : List String → Option Path × Folder
  | [] => (some here, root)
  | ".." :: rest => makeAlong root here.dropLast rest
  | name :: rest =>
    let next := here ++ [name]
    match root.makeAt? next with
    | some root => makeAlong root next rest
    | none => (none, root)

/-- Makes the directory that a text names, and those above it. -/
def makeFolders (root : Folder) (text : String) : Option Path × Folder :=
  makeAlong root [] (pathNames text)

/-- A path with a name behind it, as a text. -/
def joinPath (path name : String) : String :=
  if path = "" || path.toList.getLast? = some '/' then path ++ name else path ++ "/" ++ name

end SessionSync
