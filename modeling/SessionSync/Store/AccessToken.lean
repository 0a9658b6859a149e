import SessionSync.Store.Basic

/-!
# Access tokens from the store

An access token is asked for in two steps. `Store.begin` looks at the store alone: it knows the
account or not, and either has a token that lasts or names the refresh token to send. `Store.settle`
takes the answer of the token endpoint, which may come after the store has changed.
`Store.requestToken` is both, with nothing in between but what the endpoint does and the time that
passes until its answer arrives.
-/

namespace SessionSync

/-- The answer of the token endpoint. -/
structure Grant where
  /-- The new access token. -/
  accessToken : String
  /-- The seconds it is good for. -/
  expiresIn : Int64
  /-- Its type. -/
  kind : String
  /-- A refresh token that takes the place of the one sent. -/
  refreshToken : Option String
  deriving Repr, DecidableEq

/-- Reads the answer of the token endpoint. -/
def Grant.ofJson? (j : Json) : Option Grant := do
  match ← j.slots? ["access_token", "expires_in", "token_type", "refresh_token"] with
  | [accessToken, expiresIn, kind, refreshToken] =>
    some {
      accessToken := ← Json.required Json.toText? accessToken
      expiresIn := ← Json.required Json.toInt64? expiresIn
      kind := ← Json.withDefault "" Json.toText? kind
      refreshToken := ← Json.optional Json.toText? refreshToken }
  | _ => none

/-- The access token that an answer gives at a time. -/
def Grant.token (g : Grant) (now : Int64) : AccessToken :=
  ⟨g.accessToken, g.expiresIn, now + g.expiresIn, g.kind⟩

/-- What a store knows when an access token is asked for. -/
inductive TokenNeed
  /-- The account holds no credentials. -/
  | unknown
  /-- There is a token that lasts. -/
  | cached (accessToken : String)
  /-- A new token has to be asked for with this refresh token. -/
  | refresh (refreshToken : String)
  deriving Repr, DecidableEq

namespace Store

/-- What is needed to give an access token of an account. -/
def begin (s : Store) (now : Int64) (a : AccountId) : TokenNeed :=
  match s.held.get? a with
  | none => .unknown
  | some c =>
    match c.token with
    | some t => if t.isStale now then .refresh c.refreshToken else .cached t.text
    | none => .refresh c.refreshToken

/-- The credential after an answer. -/
def granted (c : Credential) (g : Grant) (now : Int64) : Credential :=
  { c with
    refreshToken := g.refreshToken.getD c.refreshToken
    token := some (g.token now)
    lastUsed := now }

/-- Keeps the answer of the token endpoint, unless the account has lost its credentials. A failed
write is not reported. -/
def settle (s : Store) (disk : Disk) (now : Int64) (a : AccountId) (g : Grant)
    (fault : WriteFault) : Store × Disk :=
  match s.held.get? a with
  | none => (s, disk)
  | some c =>
    let s' : Store := ⟨s.held.insert a (granted c g now), s.pending⟩
    (s', (s'.save disk fault).2)

/-- Gives an access token of an account that is asked for at a time. `endpoint` is sent a refresh
token, does what it does, and says when its answer arrives. -/
def requestToken [Monad m] (s : Store) (disk : Disk) (asked : Int64) (a : AccountId)
    (endpoint : String → m (Int64 × Except RefreshError Grant)) (fault : WriteFault) :
    m (Except TokenError String × Store × Disk) :=
  match s.begin asked a with
  | .unknown => pure (.error .invalidCredentials, s, disk)
  | .cached token => pure (.ok token, s, disk)
  | .refresh refreshToken => do
    let (arrival, answer) ← endpoint refreshToken
    match answer with
    | .error e => pure (.error e.toTokenError, s, disk)
    | .ok g => pure (.ok g.accessToken, s.settle disk arrival a g fault)

end Store

/-- An endpoint that does nothing but answer; the answer arrives at a time. -/
def answeringAt (arrival : Int64) (endpoint : String → Except RefreshError Grant)
    (refreshToken : String) : Id (Int64 × Except RefreshError Grant) :=
  pure (arrival, endpoint refreshToken)

end SessionSync
