import SessionSync.Json.Record

/-!
# The configuration

What can be configured, with its defaults, and its JSON form: `Config.toJson` writes it and
`Config.ofJson?` reads it, taking the default for whatever is left out.
-/

namespace SessionSync

/-! ## Settings -/

/-- How often things are done. -/
structure Schedule where
  /-- Whether passes are made periodically. -/
  enabled : Bool := true
  /-- The seconds between two periodic passes. -/
  intervalSecs : UInt64 := 300
  /-- The seconds between two readings of the account file. -/
  accountSyncSecs : UInt64 := 10
  deriving Repr, DecidableEq

namespace Schedule

/-- The longest period that is kept to: one day. -/
def maxIntervalSecs : UInt64 := 86400

/-- A period brought into the range from one second to one day. -/
def bounded (secs : UInt64) : UInt64 :=
  if secs = 0 then 1 else if maxIntervalSecs < secs then maxIntervalSecs else secs

/-- The seconds between two periodic passes, as they are kept to. -/
def interval (r : Schedule) : UInt64 :=
  bounded r.intervalSecs

/-- The seconds between two readings of the account file, as they are kept to. -/
def accountSyncInterval (r : Schedule) : UInt64 :=
  bounded r.accountSyncSecs

/-- The periods with the names of their settings, in the order in which they are checked. -/
def named (r : Schedule) : List (String × UInt64) :=
  [("interval_secs", r.intervalSecs), ("account_sync_secs", r.accountSyncSecs)]

end Schedule

/-- The web addresses that are called. -/
structure Endpoints where
  /-- Lists the accounts of the session. -/
  listAccounts : String := "https://accounts.google.com/ListAccounts"
  /-- Tells who owns an access token. -/
  userInfo : String := "https://www.googleapis.com/oauth2/v1/userinfo"
  /-- Adds an account to the session. -/
  mergeSession : String := "https://accounts.google.com/MergeSession"
  /-- Signs every account out of the session. -/
  logout : String := "https://accounts.google.com/Logout"
  /-- Makes access tokens from refresh tokens. -/
  token : String := "https://oauth2.googleapis.com/token"
  deriving Repr, DecidableEq

/-- The addresses with the names of their settings, in the order in which they are checked. -/
def Endpoints.named (e : Endpoints) : List (String × String) :=
  [("list_accounts_url", e.listAccounts), ("user_info_url", e.userInfo),
    ("merge_session_url", e.mergeSession), ("logout_url", e.logout), ("token_url", e.token)]

/-- What the program calls itself at the token endpoint. -/
structure ClientIdentity where
  /-- The identifier of the client. -/
  id : String := ""
  /-- The secret of the client. -/
  secret : String := ""
  deriving Repr, DecidableEq

/-- The configuration. -/
structure Config where
  /-- How much is logged. -/
  logLevel : String := "info"
  /-- How often things are done. -/
  schedule : Schedule := {}
  /-- The web addresses that are called. -/
  endpoints : Endpoints := {}
  /-- The seconds to wait for an answer. -/
  httpTimeoutSecs : UInt64 := 30
  /-- What the program calls itself at the token endpoint. -/
  client : ClientIdentity := {}
  /-- The account that is signed in from the start. -/
  primaryAccount : Option String := none
  deriving Repr, DecidableEq

/-! ## Writing -/

/-- The file form of the periods. -/
def Schedule.toJson (r : Schedule) : Json :=
  .ofFields [("enabled", .bool r.enabled), ("interval_secs", .ofInt r.intervalSecs.toNat),
    ("account_sync_secs", .ofInt r.accountSyncSecs.toNat)]

/-- The file form of the addresses. -/
def Endpoints.toJson (e : Endpoints) : Json :=
  .ofFields (e.named.map fun f => (f.1, .ofString f.2))

/-- The file form of the client. -/
def ClientIdentity.toJson (c : ClientIdentity) : Json :=
  .ofFields [("client_id", .ofString c.id), ("client_secret", .ofString c.secret)]

/-- The file form of a configuration; a primary account that is missing is left out. -/
def Config.toJson (c : Config) : Json :=
  .ofFields ([("log_level", Json.ofString c.logLevel), ("reconcile", c.schedule.toJson),
      ("endpoints", c.endpoints.toJson), ("http_timeout_secs", .ofInt c.httpTimeoutSecs.toNat),
      ("oauth_client", c.client.toJson)]
    ++ match c.primaryAccount with
      | some a => [("primary_account", .ofString a)]
      | none => [])

/-! ## Reading -/

/-- Reads the periods. -/
def Schedule.ofJson? (j : Json) : Option Schedule := do
  let d : Schedule := {}
  match ← j.slots? ["enabled", "interval_secs", "account_sync_secs"] with
  | [enabled, intervalSecs, accountSyncSecs] =>
    some {
      enabled := ← Json.withDefault d.enabled Json.toBool? enabled
      intervalSecs := ← Json.withDefault d.intervalSecs Json.toUInt64? intervalSecs
      accountSyncSecs := ← Json.withDefault d.accountSyncSecs Json.toUInt64? accountSyncSecs }
  | _ => none

/-- Reads the addresses. -/
def Endpoints.ofJson? (j : Json) : Option Endpoints := do
  let d : Endpoints := {}
  match ← j.slots? (d.named.map (·.1)) with
  | [listAccounts, userInfo, mergeSession, logout, token] =>
    some {
      listAccounts := ← Json.withDefault d.listAccounts Json.toText? listAccounts
      userInfo := ← Json.withDefault d.userInfo Json.toText? userInfo
      mergeSession := ← Json.withDefault d.mergeSession Json.toText? mergeSession
      logout := ← Json.withDefault d.logout Json.toText? logout
      token := ← Json.withDefault d.token Json.toText? token }
  | _ => none

/-- Reads the client. -/
def ClientIdentity.ofJson? (j : Json) : Option ClientIdentity := do
  match ← j.slots? ["client_id", "client_secret"] with
  | [id, secret] =>
    some {
      id := ← Json.withDefault "" Json.toText? id
      secret := ← Json.withDefault "" Json.toText? secret }
  | _ => none

/-- Reads a configuration. -/
def Config.ofJson? (j : Json) : Option Config := do
  let d : Config := {}
  match ← j.slots? ["log_level", "reconcile", "endpoints", "http_timeout_secs", "oauth_client",
      "primary_account"] with
  | [logLevel, schedule, endpoints, httpTimeoutSecs, client, primaryAccount] =>
    some {
      logLevel := ← Json.withDefault d.logLevel Json.toText? logLevel
      schedule := ← Json.withDefault d.schedule Schedule.ofJson? schedule
      endpoints := ← Json.withDefault d.endpoints Endpoints.ofJson? endpoints
      httpTimeoutSecs := ← Json.withDefault d.httpTimeoutSecs Json.toUInt64? httpTimeoutSecs
      client := ← Json.withDefault d.client ClientIdentity.ofJson? client
      primaryAccount := ← Json.optional Json.toText? primaryAccount }
  | _ => none

end SessionSync
