import SessionSync.Store.BookFile
import SessionSync.Account.Catalog
import SessionSync.Service.Failure

/-!
# The credential store

A `Store` holds the credentials of accounts and the list of accounts that wait for some, and keeps
both in the account file of a data directory that other stores may share. Each operation takes the
store and the directory and gives both back, with its result and the events it announces.

Writing operations first change the store and then write the file; one that reports a failed write
leaves the store changed and announces nothing.
-/

namespace SessionSync

/-! ## Events -/

/-- What a store announces. -/
inductive TokenEvent
  /-- The account has a new refresh token. -/
  | available (account : AccountId)
  /-- The account has no refresh token any more. -/
  | revoked (account : AccountId)
  /-- The account file has been loaded. -/
  | loaded
  deriving Repr, DecidableEq

/-! ## The store -/

/-- The credentials in memory. -/
structure Store where
  /-- The credentials, by account. -/
  held : Catalog Credential
  /-- The accounts that wait for credentials, in the order they were noted. -/
  pending : List Adoption
  deriving Repr, DecidableEq

/-- What an operation leaves behind. -/
structure Outcome (α : Type) where
  /-- What the caller is told. -/
  result : Except FileError α
  /-- The store afterwards. -/
  store : Store
  /-- The data directory afterwards. -/
  disk : Disk
  /-- The events announced, in order. -/
  events : List TokenEvent

namespace Store

/-- The store of a process that has read nothing yet. -/
def empty : Store :=
  ⟨Catalog.empty, []⟩

/-- The accounts that hold credentials, in ascending order. -/
def accounts (s : Store) : List AccountId :=
  s.held.accounts

/-- Whether an account holds credentials. -/
def holds (s : Store) (a : AccountId) : Bool :=
  s.held.contains a

/-- The book that the store writes. -/
def book (s : Store) : AccountBook where
  accounts := s.held.toList
  pending := s.pending

/-- Writes the store into the account file. -/
def save (s : Store) (disk : Disk) (fault : WriteFault) : Except FileError Unit × Disk :=
  saveBook disk s.book fault

/-- The credentials that a book gives: an account without a name is passed over, and of several
entries for an account the last counts. -/
def catalogOf (book : AccountBook) : Catalog Credential :=
  Catalog.ofList (book.accounts.filter fun e => !e.1.isEmpty)

/-! ## Reading the file -/

/-- Takes over what the account file holds, and tells how many accounts that is. -/
def load (s : Store) (disk : Disk) (fault : WriteFault) : Outcome Nat :=
  match loadBook disk fault with
  | (.error e, disk') => ⟨.error e, s, disk', []⟩
  | (.ok book, disk') =>
    let held := catalogOf book
    ⟨.ok held.size, ⟨held, book.pending⟩, disk', [.loaded]⟩

/-- What a store holds for an account once it has seen the credential on file: its own where the
refresh token is the same, which keeps the access token, and that on file otherwise. -/
def merged (held : Option Credential) (onFile : Credential) : Credential :=
  match held with
  | some own => if own.refreshToken = onFile.refreshToken then own else onFile
  | none => onFile

/-- Whether the credential on file is news to a store. -/
def isNews (held : Option Credential) (onFile : Credential) : Bool :=
  match held with
  | some own => own.refreshToken ≠ onFile.refreshToken
  | none => true

/-- Takes over the changes that others made to the account file, and tells how many events that
makes. An account that is gone from the file is revoked; one that is new there or has another
refresh token is available. A file that cannot be read changes nothing. -/
def sync (s : Store) (disk : Disk) : Outcome Nat :=
  match readBook disk with
  | .error e => ⟨.error e, s, disk, []⟩
  | .ok book =>
    let onFile := catalogOf book
    let gone := s.accounts.filter fun a => !onFile.contains a
    let news := onFile.toList.filter fun e => isNews (s.held.get? e.1) e.2
    let held := onFile.mapValues fun a c => merged (s.held.get? a) c
    let events := gone.map .revoked ++ news.map fun e => .available e.1
    ⟨.ok events.length, ⟨held, book.pending.filter fun p => !held.contains p.account⟩, disk, events⟩

/-! ## Changing credentials -/

/-- The credential after a refresh token is set: the access token goes with the old refresh token.
-/
def renewed (old : Option Credential) (refreshToken : String) (now : Int64) : Credential :=
  match old with
  | some c =>
    if c.refreshToken = refreshToken then { c with lastUsed := now }
    else { c with refreshToken, token := none, lastUsed := now }
  | none => .new refreshToken now

/-- Sets the refresh token of an account, which then no longer waits for one. -/
def upsert (s : Store) (disk : Disk) (now : Int64) (a : AccountId) (refreshToken : String)
    (fault : WriteFault) : Outcome Unit :=
  let s' : Store :=
    ⟨s.held.insert a (renewed (s.held.get? a) refreshToken now), s.pending.filter (·.account ≠ a)⟩
  match s'.save disk fault with
  | (.ok _, disk') => ⟨.ok (), s', disk', [.available a]⟩
  | (.error e, disk') => ⟨.error e, s', disk', []⟩

/-- Drops the credentials of an account, and tells whether there were any. -/
def revoke (s : Store) (disk : Disk) (a : AccountId) (fault : WriteFault) : Outcome Bool :=
  if s.holds a then
    let s' : Store := ⟨s.held.erase a, s.pending⟩
    match s'.save disk fault with
    | (.ok _, disk') => ⟨.ok true, s', disk', [.revoked a]⟩
    | (.error e, disk') => ⟨.error e, s', disk', []⟩
  else ⟨.ok false, s, disk, []⟩

/-- Notes that an account of the session waits for credentials, unless it holds some or waits
already. A failed write is not reported. -/
def adopt (s : Store) (disk : Disk) (now : Int64) (a : AccountId) (place : UInt64)
    (fault : WriteFault) : Outcome Unit :=
  if s.holds a || s.pending.any (·.account = a) then ⟨.ok (), s, disk, []⟩
  else
    let s' : Store := ⟨s.held, s.pending ++ [⟨a, place, now⟩]⟩
    ⟨.ok (), s', (s'.save disk fault).2, []⟩

end Store

end SessionSync
