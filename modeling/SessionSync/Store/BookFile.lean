import SessionSync.Account.Credential
import SessionSync.Disk.Replace
import SessionSync.Json.Parser
import SessionSync.Text.Utf8
import SessionSync.Text.WhiteSpace

/-!
# The account file

How the account book lies in the data directory. `readBook` reads it without touching the
directory, `loadBook` also moves a file aside that cannot be read, and `saveBook` replaces it.
-/

namespace SessionSync

/-- The name of the account file. -/
def accountFile : String := "accounts.json"

/-- Why the account file could not be read or written. -/
inductive FileError
  /-- No place for the data directory is known. -/
  | noDataDir
  /-- The file system refused. -/
  | disk
  /-- The file does not hold a book. -/
  | malformed
  deriving Repr, DecidableEq

/-- The message of a failure of the account file. -/
def FileError.message : FileError → String
  | .noDataDir => "failed to resolve the platform data directory"
  | .disk => "account store I/O failed"
  | .malformed => "account book serialization failed"

/-! ## The text of the file -/

/-- The bytes without a byte order mark in front. -/
def skipMark : List UInt8 → List UInt8
  | 0xEF :: 0xBB :: 0xBF :: rest => rest
  | bytes => bytes

/-- The text of the file: a byte order mark and zero bytes after it are passed over, and what is not
UTF-8 is replaced. -/
def bookText (bytes : List UInt8) : List Char :=
  Text.Utf8.decodeLossy ((skipMark bytes).dropWhile (· = 0))

/-- The book that the bytes of a file hold. A blank file holds the empty book. -/
def bookOfBytes? (bytes : List UInt8) : Option AccountBook :=
  let text := bookText bytes
  if Text.isBlank text then some .empty
  else (Json.parse? text).bind AccountBook.ofJson?

/-- The bytes of the file that holds a book. -/
def AccountBook.toBytes (book : AccountBook) : List UInt8 :=
  Text.Utf8.encode book.toJson.pretty

/-! ## The file in its directory -/

/-- Reads the account file. A missing file holds the empty book. -/
def readBook (disk : Disk) : Except FileError AccountBook :=
  match disk.bind (·.get? accountFile) with
  | none => .ok .empty
  | some (.folder _) => .error .disk
  | some (.file bytes) =>
    match bookOfBytes? bytes with
    | some book => .ok book
    | none => .error .malformed

/-- The directory with the account file under a name that keeps it for later inspection. -/
def moveBookAside (disk : Disk) : Disk :=
  disk.map fun folder =>
    match folder.get? accountFile with
    | some node => (folder.remove accountFile).put (folder.freeName s!"{accountFile}.corrupt") node
    | none => folder

/-- Reads the account file; one that does not hold a book is moved aside and counts as empty. If it
cannot be moved, it stays, and nothing has been read. -/
def loadBook (disk : Disk) (fault : WriteFault) : Except FileError AccountBook × Disk :=
  match readBook disk with
  | .error .malformed =>
    if fault = .rename then (.error .disk, disk) else (.ok .empty, moveBookAside disk)
  | result => (result, disk)

/-- Replaces the account file. -/
def saveBook (disk : Disk) (book : AccountBook) (fault : WriteFault) :
    Except FileError Unit × Disk :=
  let r := replaceFile disk accountFile book.toBytes fault
  (if r.succeeded then .ok () else .error .disk, r.final disk)

end SessionSync
