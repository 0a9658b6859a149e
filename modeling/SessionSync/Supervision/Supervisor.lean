import SessionSync.Service.Profile
import SessionSync.Store.Basic

/-!
# The supervisor

While somebody is signed in, the supervisor listens to the credential store and, if that is enabled,
has passes made periodically. `Supervisor.handle` says what an event makes it do: it gives the
supervisor afterwards and the orders it gives, to be carried out in their order.
-/

namespace SessionSync

/-! ## Events and orders -/

/-- What the supervisor reacts to. -/
inductive SupervisorEvent
  /-- An account has signed in. -/
  | signedIn (account : AccountId)
  /-- Nobody is signed in any more. -/
  | signedOut
  /-- An account has a new refresh token. -/
  | available (account : AccountId)
  /-- An account has no refresh token any more. -/
  | revoked (account : AccountId)
  /-- The account file has been loaded. -/
  | loaded
  deriving Repr, DecidableEq

/-- What the store announces, as the supervisor sees it. -/
def SupervisorEvent.ofToken : TokenEvent → SupervisorEvent
  | .available a => .available a
  | .revoked a => .revoked a
  | .loaded => .loaded

/-- What the profile announces, as the supervisor sees it. -/
def SupervisorEvent.ofProfile : ProfileEvent → SupervisorEvent
  | .signedIn a => .signedIn a
  | .signedOut _ => .signedOut

/-- What the supervisor has done. Background tasks have numbers that are not used again. -/
inductive Order
  /-- A task begins to listen to the store. -/
  | listen (task : Nat)
  /-- That task ends. -/
  | stopListening (task : Nat)
  /-- A task begins to make passes periodically. -/
  | startTimer (task : Nat)
  /-- That task ends. -/
  | stopTimer (task : Nat)
  /-- A pass is to be started. -/
  | startPass
  /-- The pass in flight is to be given up. -/
  | abortPass
  /-- An account is to be removed from the session. -/
  | removeAccount (account : AccountId)
  deriving Repr, DecidableEq

/-! ## The supervisor -/

/-- The supervisor. -/
structure Supervisor where
  /-- Whether passes are to be made periodically. -/
  periodicEnabled : Bool
  /-- The task that listens to the store. -/
  listener : Option Nat := none
  /-- The task that makes passes periodically. -/
  timer : Option Nat := none
  /-- The number of the next task. -/
  nextTask : Nat := 0
  /-- Whether everything has been shut down; tasks that begin later end at once. -/
  closed : Bool := false
  deriving Repr, DecidableEq

namespace Supervisor

/-- Whether the supervisor listens to the store. -/
def isListening (s : Supervisor) : Bool :=
  s.listener.isSome

/-- Whether passes are made periodically. -/
def isPeriodic (s : Supervisor) : Bool :=
  s.timer.isSome

/-- An order that begins a task, unless everything has been shut down. -/
def begin (s : Supervisor) (order : Order) : List Order :=
  if s.closed then [] else [order]

/-- Listens to the store, unless that is being done. -/
def listen (s : Supervisor) : Supervisor × List Order :=
  match s.listener with
  | some _ => (s, [])
  | none =>
    ({ s with listener := some s.nextTask, nextTask := s.nextTask + 1 },
      s.begin (.listen s.nextTask))

/-- Has passes made periodically, unless that is being done. -/
def startTimer (s : Supervisor) : Supervisor × List Order :=
  match s.timer with
  | some _ => (s, [])
  | none =>
    ({ s with timer := some s.nextTask, nextTask := s.nextTask + 1 },
      s.begin (.startTimer s.nextTask))

/-- An account has signed in. That changes nothing while everything is running. -/
def signedIn (s : Supervisor) : Supervisor × List Order :=
  if s.isListening && s.isPeriodic then (s, [])
  else
    let (s, first) := s.listen
    if s.periodicEnabled then
      let (s, second) := s.startTimer
      (s, first ++ second)
    else (s, first)

/-- The orders that end the tasks. -/
def stopOrders (s : Supervisor) : List Order :=
  (s.listener.map .stopListening).toList ++ (s.timer.map .stopTimer).toList

/-- Nobody is signed in any more. -/
def signedOut (s : Supervisor) : Supervisor × List Order :=
  ({ s with listener := none, timer := none }, s.stopOrders ++ [.abortPass])

/-- What an event makes the supervisor do. -/
def handle (s : Supervisor) : SupervisorEvent → Supervisor × List Order
  | .signedIn _ => s.signedIn
  | .signedOut => s.signedOut
  | .loaded => (s, if s.isListening then [.startPass] else [])
  | .available _ => (s, [])
  | .revoked a => (s, if s.isListening then [.removeAccount a] else [])

/-- The supervisor of a profile; one that is signed in counts as having just signed in. -/
def new (periodicEnabled : Bool) (p : Profile) : Supervisor × List Order :=
  let s : Supervisor := { periodicEnabled }
  match p.primary with
  | some a => s.handle (.signedIn a)
  | none => (s, [])

/-- Everything is shut down. -/
def shutdown (s : Supervisor) : Supervisor × List Order :=
  ({ s with listener := none, timer := none, closed := true }, .abortPass :: s.stopOrders)

end Supervisor

end SessionSync
