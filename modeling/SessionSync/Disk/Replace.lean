import SessionSync.Disk.Folder

/-!
# Replacing a file

A file is replaced in two steps: the new bytes go to a temporary file, which then takes the file's
name. `replaceFile` gives the directory after each step, for every point at which the steps can
fail; a step that fails is followed by the removal of the temporary file.
-/

namespace SessionSync

/-- A data directory, or none when it does not exist. -/
abbrev Disk := Option Folder

/-- What goes wrong with the next change of a file, apart from what the directory itself forbids. -/
inductive WriteFault
  /-- Nothing. -/
  | none
  /-- The temporary file cannot be written; this many bytes of it were. -/
  | write (written : Nat)
  /-- A file cannot take another name. -/
  | rename
  deriving Repr, DecidableEq

/-- The course of a replacement. -/
structure Replacement where
  /-- The directory after each step. -/
  after : List Disk
  /-- Whether the file was replaced. -/
  succeeded : Bool

/-- The directory at the end of a replacement that started in the given one. -/
def Replacement.final (r : Replacement) (before : Disk) : Disk :=
  r.after.getLast?.getD before

/-- Replaces a file by the given bytes. Nothing can be written into a directory that does not exist,
and no file can take the name of a directory. -/
def replaceFile (disk : Disk) (name : String) (bytes : List UInt8) (fault : WriteFault) :
    Replacement :=
  match disk with
  | none => ⟨[], false⟩
  | some folder =>
    let temporary := folder.freeName s!"{name}.tmp"
    let written (content : List UInt8) := folder.put temporary (.file content)
    match fault with
    | .write k =>
      let part := written (bytes.take k)
      ⟨[some part, some (part.remove temporary)], false⟩
    | .rename => ⟨[some (written bytes), some ((written bytes).remove temporary)], false⟩
    | .none =>
      if folder.isFolder name then
        ⟨[some (written bytes), some ((written bytes).remove temporary)], false⟩
      else
        let replaced := ((written bytes).remove temporary).put name (.file bytes)
        ⟨[some (written bytes), some replaced], true⟩

end SessionSync
