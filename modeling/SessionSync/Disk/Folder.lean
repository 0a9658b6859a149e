/-!
# Folders

A directory with its files and directories, and what can be done in it: look an entry up, put one in
place, take one away, and find a name that is still free. Bytes are kept as they are.
-/

namespace SessionSync

/-- A file or a directory. -/
inductive Node
  /-- A file with its bytes. -/
  | file (bytes : List UInt8)
  /-- A directory with its entries. -/
  | folder (entries : List (String × Node))
  deriving Repr, Inhabited

/-- The entries of a directory. -/
abbrev Folder := List (String × Node)

namespace Folder

/-- The entry with a name. -/
def get? (f : Folder) (name : String) : Option Node :=
  (f.find? (·.1 = name)).map (·.2)

/-- The directory without the entry of a name. -/
def remove (f : Folder) (name : String) : Folder :=
  f.filter (·.1 ≠ name)

/-- The directory with an entry, in place of one of the same name. -/
def put (f : Folder) (name : String) (node : Node) : Folder :=
  f.remove name ++ [(name, node)]

/-- The bytes of a file. -/
def bytes? (f : Folder) (name : String) : Option (List UInt8) :=
  match f.get? name with
  | some (.file bytes) => some bytes
  | _ => none

/-- Whether an entry is a directory. -/
def isFolder (f : Folder) (name : String) : Bool :=
  match f.get? name with
  | some (.folder _) => true
  | _ => false

/-- The names of the entries. -/
def names (f : Folder) : List String :=
  f.map (·.1)

/-- The first of the names `stem.0`, `stem.1`, … that no entry has. -/
def freeName (f : Folder) (stem : String) : String :=
  let candidates := (List.range (f.length + 1)).map fun k => s!"{stem}.{k}"
  (candidates.find? fun name => !f.names.contains name).getD stem

end Folder

end SessionSync
