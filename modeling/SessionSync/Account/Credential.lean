import SessionSync.Account.Id
import SessionSync.Json.Record
import SessionSync.Json.Printer

/-!
# Credentials and their file form

What is kept for an account (`Credential`), what is noted about an account that is to be adopted
(`Adoption`), and the book that a file of both holds (`AccountBook`), with its JSON form:
`AccountBook.toJson` writes it and `AccountBook.ofJson?` reads it.
-/

namespace SessionSync

/-! ## Records -/

/-- An access token and how long it lasts. -/
structure AccessToken where
  /-- The token itself. -/
  text : String
  /-- The seconds it was good for when it was given. -/
  expiresIn : Int64
  /-- The time at which it expires. -/
  expiry : Int64
  /-- The type that the endpoint gave it. -/
  kind : String
  deriving Repr, DecidableEq

namespace AccessToken

/-- The seconds before its expiry from which a token counts as stale. -/
def refreshMargin : Int64 := 300

/-- Whether so little is left of a token that another one is needed. What is left is a number of 64
bits, as the expiry is. -/
def isStale (t : AccessToken) (now : Int64) : Bool :=
  t.expiry - now < refreshMargin

end AccessToken

/-- What is kept for an account. -/
structure Credential where
  /-- The refresh token, from which access tokens are made. -/
  refreshToken : String
  /-- The last access token made from it. -/
  token : Option AccessToken
  /-- When the account was added. -/
  createdAt : Int64
  /-- When the credential was last set or used. -/
  lastUsed : Int64
  deriving Repr, DecidableEq

/-- The credential of an account that is added now. -/
def Credential.new (refreshToken : String) (now : Int64) : Credential :=
  ⟨refreshToken, none, now, now⟩

/-- A session account that waits for credentials. -/
structure Adoption where
  /-- The account. -/
  account : AccountId
  /-- Its place in the session when it was noted. -/
  place : UInt64
  /-- When it was noted. -/
  requestedAt : Int64
  deriving Repr, DecidableEq

/-- The version that is written into the account file. -/
def AccountBook.currentVersion : String := "1.0"

/-- What the account file holds. -/
structure AccountBook where
  /-- The version of its form. -/
  version : String := AccountBook.currentVersion
  /-- The credentials, by account. -/
  accounts : List (AccountId × Credential)
  /-- The accounts that wait for credentials. -/
  pending : List Adoption
  deriving Repr, DecidableEq

/-- The book of a file that does not exist. -/
def AccountBook.empty : AccountBook where
  accounts := []
  pending := []

/-! ## Writing -/

/-- The file form of an access token. -/
def AccessToken.toJson (t : AccessToken) : Json :=
  .ofFields [("access_token", .ofString t.text), ("expires_in", .ofInt t.expiresIn.toInt),
    ("expiry_timestamp", .ofInt t.expiry.toInt), ("token_type", .ofString t.kind)]

/-- The file form of an account with its credential; a token that is missing is left out. -/
def Credential.toJson (a : AccountId) (c : Credential) : Json :=
  .ofFields ([("account_id", Json.ofString a.text), ("refresh_token", .ofString c.refreshToken)]
    ++ (match c.token with | some t => [("token", t.toJson)] | none => [])
    ++ [("created_at", .ofInt c.createdAt.toInt), ("last_used", .ofInt c.lastUsed.toInt)])

/-- The file form of an adoption. -/
def Adoption.toJson (p : Adoption) : Json :=
  .ofFields [("account_id", .ofString p.account.text), ("session_index", .ofInt p.place.toNat),
    ("requested_at", .ofInt p.requestedAt.toInt)]

/-- The file form of a book; the adoptions are left out when there are none. -/
def AccountBook.toJson (book : AccountBook) : Json :=
  .ofFields ([("version", Json.ofString book.version),
      ("accounts", .array (book.accounts.map fun e => e.2.toJson e.1))]
    ++ if book.pending = [] then []
      else [("pending_adoptions", .array (book.pending.map Adoption.toJson))])

/-! ## Reading -/

/-- Reads an account. -/
def AccountId.ofJson? (j : Json) : Option AccountId :=
  j.toText?.map .ofString

/-- Reads an access token. -/
def AccessToken.ofJson? (j : Json) : Option AccessToken := do
  match ← j.slots? ["access_token", "expires_in", "expiry_timestamp", "token_type"] with
  | [text, expiresIn, expiry, kind] =>
    some {
      text := ← Json.required Json.toText? text
      expiresIn := ← Json.required Json.toInt64? expiresIn
      expiry := ← Json.required Json.toInt64? expiry
      kind := ← Json.withDefault "" Json.toText? kind }
  | _ => none

/-- Reads an account with its credential. -/
def Credential.ofJson? (j : Json) : Option (AccountId × Credential) := do
  match ← j.slots? ["account_id", "refresh_token", "token", "created_at", "last_used"] with
  | [account, refreshToken, token, createdAt, lastUsed] =>
    some (← Json.required AccountId.ofJson? account, {
      refreshToken := ← Json.required Json.toText? refreshToken
      token := ← Json.optional AccessToken.ofJson? token
      createdAt := ← Json.required Json.toInt64? createdAt
      lastUsed := ← Json.required Json.toInt64? lastUsed })
  | _ => none

/-- Reads an adoption. -/
def Adoption.ofJson? (j : Json) : Option Adoption := do
  match ← j.slots? ["account_id", "session_index", "requested_at"] with
  | [account, place, requestedAt] =>
    some {
      account := ← Json.required AccountId.ofJson? account
      place := ← Json.required Json.toUInt64? place
      requestedAt := ← Json.required Json.toInt64? requestedAt }
  | _ => none

/-- Reads a list of which every item must be readable. -/
def Json.toListOf? (read : Json → Option α) (j : Json) : Option (List α) :=
  j.toList?.bind (·.mapM read)

/-- Reads a book. A version must be given; which one it is makes no difference. -/
def AccountBook.ofJson? (j : Json) : Option AccountBook := do
  match ← j.slots? ["version", "accounts", "pending_adoptions"] with
  | [version, accounts, pending] =>
    some {
      version := ← Json.required Json.toText? version
      accounts := ← Json.withDefault [] (Json.toListOf? Credential.ofJson?) accounts
      pending := ← Json.withDefault [] (Json.toListOf? Adoption.ofJson?) pending }
  | _ => none

end SessionSync
