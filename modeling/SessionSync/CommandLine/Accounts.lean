import SessionSync.CommandLine.Arguments
import SessionSync.Store.Basic

/-!
# Account commands

The commands that change or show the account file. Each opens a store of its own, loads the file,
and does one thing; a process that is running sees the change when it reads the file again.
-/

namespace SessionSync.CommandLine

/-- A command about accounts. -/
inductive AccountCommand
  /-- Keep a refresh token for an account. -/
  | add (email refreshToken : String)
  /-- Drop the refresh token of an account. -/
  | remove (email : String)
  /-- Tell which accounts hold refresh tokens. -/
  | list
  deriving Repr, DecidableEq

/-- Why a command about accounts failed. -/
inductive AccountError
  /-- The account file cannot be read. -/
  | load
  /-- The account file cannot be written. -/
  | save
  /-- The account has no name. -/
  | noAccount
  /-- The refresh token is blank. -/
  | noToken
  /-- The account holds no refresh token. -/
  | notHeld (account : AccountId)
  deriving Repr, DecidableEq

/-- The message of a command about accounts that failed. -/
def AccountError.message : AccountError → String
  | .load => "failed to load accounts"
  | .save => "failed to save account"
  | .noAccount => "account email must not be empty"
  | .noToken => "refresh token must not be empty"
  | .notHeld a => s!"no refresh token stored for {a.text}"

/-- Keeps a refresh token for an account. -/
def addAccount (s : Store) (disk : Disk) (now : Int64) (email refreshToken : String) :
    Except AccountError (List String) × Disk :=
  let a := AccountId.ofString email
  let token := String.ofList (Text.trim refreshToken.toList)
  if a.isEmpty then (.error .noAccount, disk)
  else if token = "" then (.error .noToken, disk)
  else
    let o := s.upsert disk now a token .none
    match o.result with
    | .ok _ => (.ok [s!"Stored refresh token for {a.text}"], o.disk)
    | .error _ => (.error .save, o.disk)

/-- Drops the refresh token of an account. -/
def removeAccount (s : Store) (disk : Disk) (email : String) :
    Except AccountError (List String) × Disk :=
  let a := AccountId.ofString email
  let o := s.revoke disk a .none
  match o.result with
  | .ok true => (.ok [s!"Removed refresh token for {a.text}"], o.disk)
  | .ok false => (.error (.notHeld a), o.disk)
  | .error _ => (.error .save, o.disk)

/-- Carries out a command about accounts at a time, and gives the lines that it prints. -/
def runAccountCommand (disk : Disk) (now : Int64) (c : AccountCommand) :
    Except AccountError (List String) × Disk :=
  let o := Store.empty.load disk .none
  match o.result with
  | .error _ => (.error .load, o.disk)
  | .ok _ =>
    match c with
    | .add email refreshToken => addAccount o.store o.disk now email refreshToken
    | .remove email => removeAccount o.store o.disk email
    | .list => (.ok (o.store.accounts.map (·.text)), o.disk)

end SessionSync.CommandLine
