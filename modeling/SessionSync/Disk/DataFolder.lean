import SessionSync.Disk.Path
import SessionSync.Text.WhiteSpace

/-!
# Where the data directory lies

The data directory may be named outright. Otherwise it lies in the directory in which a platform
keeps the data of programs.
-/

namespace SessionSync

/-- What the surroundings of a process say about directories. -/
structure Places where
  /-- The data directory, named outright. -/
  dataFolder : Option String
  /-- The directory for the data of programs. -/
  dataHome : Option String
  /-- The home directory of the user. -/
  home : Option String
  deriving Repr, DecidableEq

namespace Places

/-- The directory of the program among the data of programs. -/
def programFolder : String := "account-reconcilor"

/-- The directory for the data of programs: as it is set, if that is a full path, and else in the
home directory. -/
def platformFolder? (p : Places) : Option String :=
  match p.dataHome with
  | some folder =>
    if folder.toList.head? = some '/' then some folder
    else p.home.map fun home => joinPath home ".local/share"
  | none => p.home.map fun home => joinPath home ".local/share"

/-- The data directory. A blank name counts as none. -/
def dataFolder? (p : Places) : Option String :=
  match p.dataFolder with
  | some folder =>
    if Text.isBlank folder.toList then p.platformFolder?.map fun f => joinPath f programFolder
    else some folder
  | none => p.platformFolder?.map fun f => joinPath f programFolder

end Places

end SessionSync
