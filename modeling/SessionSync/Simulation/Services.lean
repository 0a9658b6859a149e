import SessionSync.Pass.Coordinator
import SessionSync.Session.Worker
import SessionSync.Store.AccessToken

/-!
# Services that follow a script

Stand-ins for the services around the coordinator, for running the whole on paper. A scripted token
service keeps requests waiting until it is told how to answer them; a scripted session answers with
what was last set, at once or, while it holds its answers back, when it lets them go.
-/

namespace SessionSync

/-! ## Tokens -/

/-- Who waits for an access token. -/
inductive Asker
  /-- The check of an account in a flow. -/
  | check (flow : Nat)
  /-- The worker. -/
  | worker
  deriving Repr, DecidableEq

/-- A token service that follows a script. -/
structure ScriptedTokens where
  /-- The accounts that hold credentials. -/
  held : AccountSet := Catalog.empty
  /-- Whether every request is answered at once. -/
  immediate : Bool := false
  /-- The requests that wait, oldest first. -/
  waiting : List (AccountId × Asker) := []
  /-- The adoptions asked for, oldest first. -/
  adoptions : List (AccountId × Nat) := []

/-- The access token that is given for an account unless the script says otherwise. -/
def defaultToken (a : AccountId) : String :=
  s!"access-{a.text}"

/-- The token service of a simulation. -/
inductive TokenSource
  /-- One that follows a script. -/
  | scripted (tokens : ScriptedTokens)
  /-- A credential store with its directory, whose token endpoint cannot be reached. -/
  | stored (store : Store) (disk : Disk)

namespace TokenSource

/-- The accounts that hold credentials. -/
def held : TokenSource → List AccountId
  | .scripted t => t.held.accounts
  | .stored s _ => s.accounts

/-- How many announcements are kept for a listener. -/
def announcementsKept : TokenSource → Nat
  | .scripted _ => 16
  | .stored _ _ => 64

/-- Asks for an access token at a time; without an answer the asker waits. -/
def ask (s : TokenSource) (now : Int64) (a : AccountId) (asker : Asker) :
    TokenSource × Option (Except TokenError String) :=
  match s with
  | .scripted t =>
    if !t.held.contains a then (s, some (.error .invalidCredentials))
    else if t.immediate then (s, some (.ok (defaultToken a)))
    else (.scripted { t with waiting := t.waiting ++ [(a, asker)] }, none)
  | .stored store disk =>
    let unreachable := answeringAt now fun _ => .error (.network "endpoint unreachable")
    let (answer, store, disk) := (store.requestToken disk now a unreachable .none).run
    (.stored store disk, some answer)

/-- Asks at a time to adopt an account at a place of the session. -/
def adopt (s : TokenSource) (now : Int64) (a : AccountId) (place : Nat) : TokenSource :=
  match s with
  | .scripted t => .scripted { t with adoptions := t.adoptions ++ [(a, place)] }
  | .stored store disk =>
    let o := store.adopt disk now a (UInt64.ofNat place) .none
    .stored o.store o.disk

end TokenSource

/-! ## The session -/

/-- A change of the session that was asked for. -/
inductive SessionCall
  /-- The owner of an access token is added. -/
  | merge (token : String)
  /-- Every account is signed out. -/
  | logout
  deriving Repr, DecidableEq

/-- A session that follows a script. Until it is told otherwise it knows nothing. -/
structure ScriptedSession where
  /-- The answer to a request for the account list. -/
  listAnswer : Except CallError String := .error (.status 404 "")
  /-- The answer to a request for the owner of an access token. -/
  infoAnswer : Except CallError TokenOwner := .error (.status 404 "")
  /-- The answers for single access tokens, newest first. -/
  infoByToken : List (String × Except CallError TokenOwner) := []
  /-- Whether account lists are held back. -/
  listHeld : Bool := false
  /-- Whether owners are held back. -/
  infoHeld : Bool := false
  /-- The flows that wait for the account list, oldest first. -/
  listWaiting : List Nat := []
  /-- The checks that wait for the owner of an access token, oldest first. -/
  infoWaiting : List (Nat × AccountId × String) := []
  /-- How often the account list was asked for. -/
  listCalls : Nat := 0
  /-- How often an owner was asked for. -/
  infoCalls : Nat := 0
  /-- The changes asked for since the last report, oldest first. -/
  changes : List SessionCall := []

namespace ScriptedSession

/-- The answer for the owner of an access token. -/
def infoFor (s : ScriptedSession) (token : String) : Except CallError TokenOwner :=
  ((s.infoByToken.find? (·.1 = token)).map (·.2)).getD s.infoAnswer

/-- Asks for the account list; without an answer the flow waits. -/
def askList (s : ScriptedSession) (flow : Nat) :
    ScriptedSession × Option (Except CallError String) :=
  let s := { s with listCalls := s.listCalls + 1 }
  if s.listHeld then ({ s with listWaiting := s.listWaiting ++ [flow] }, none)
  else (s, some s.listAnswer)

/-- Asks for the owner of an access token; without an answer the check waits. -/
def askInfo (s : ScriptedSession) (flow : Nat) (a : AccountId) (token : String) :
    ScriptedSession × Option (Except CallError TokenOwner) :=
  let s := { s with infoCalls := s.infoCalls + 1 }
  if s.infoHeld then ({ s with infoWaiting := s.infoWaiting ++ [(flow, a, token)] }, none)
  else (s, some (s.infoFor token))

/-- A change is asked for; whether it succeeds makes no difference to the one who asks. -/
def change (s : ScriptedSession) (c : SessionCall) : ScriptedSession :=
  { s with changes := s.changes ++ [c] }

end ScriptedSession

end SessionSync
