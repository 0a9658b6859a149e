import SessionSync.Pass.Plan
import SessionSync.Pass.State
import SessionSync.Session.AccountList

/-!
# The coordinator

The coordinator carries out passes, readings, checks and removals. Each of them is a *flow*: it asks
services for something, waits, and goes on with the answer. Answers come in any order and at any
time, so every step takes the coordinator and one event, a call or the completion of a request, and
gives the coordinator afterwards with what it asks for and what it has the agent do
(`Coordinator.step`). What one event sets off is one step: no other event comes in between.

* A pass asks for the account list of the session and checks every account that holds credentials.
  With the last answer it ends: if it is still the current pass and knows all that is needed, the
  plan is carried out.
* A check of an account asks for an access token and then for the owner of that token.
* A reading and a checking record what they learn under the pass that was current when they began.
* A removal tells the agent before and after it has read the session, and gives up the current
  pass when it could.
-/

namespace SessionSync

/-! ## Flows -/

/-- What the check of an account waits for. -/
inductive Check
  /-- The access token. -/
  | minting
  /-- The owner of the access token. -/
  | identifying (token : String)
  deriving Repr, DecidableEq

/-- The checks that have not come to an end, by account. -/
abbrev Checks := List (AccountId × Check)

/-- Something that waits for answers. -/
inductive Flow
  /-- A pass that has not asked for anything yet. -/
  | queued (passId : Nat)
  /-- A pass, whether it waits for the account list and which checks it waits for. -/
  | pass (passId : Nat) (listDue : Bool) (checks : Checks)
  /-- A reading of the session. -/
  | reading (passId : Nat)
  /-- A checking of the accounts that hold credentials. -/
  | checking (passId : Nat) (checks : Checks)
  /-- A removal of an account from the session. -/
  | removal (account : AccountId)
  deriving Repr, DecidableEq

/-- The number of the pass and the checks that a flow waits for. -/
def Flow.checks? : Flow → Option (Nat × Checks)
  | .pass passId _ checks => some (passId, checks)
  | .checking passId checks => some (passId, checks)
  | _ => none

/-- What a flow asks the services for. -/
inductive Request
  /-- The account list of the session. -/
  | list (flow : Nat)
  /-- An access token of an account. -/
  | mint (flow : Nat) (account : AccountId)
  /-- The owner of an access token of an account. -/
  | identify (flow : Nat) (account : AccountId) (token : String)
  deriving Repr, DecidableEq

/-- What the agent is told. -/
inductive Instruction
  /-- To carry out an action. -/
  | perform (action : Action)
  /-- That the removal of an account begins. -/
  | startRemoval (account : AccountId)
  /-- That the removal of an account ends, with the session as it is now. -/
  | finishRemoval (account : AccountId) (session : Except ListingError (List AccountId))

/-- The coordinator: what is known, and the flows under their numbers. -/
structure Coordinator where
  /-- What the current pass has learned. -/
  state : PassState := {}
  /-- The flows, oldest first. -/
  flows : List (Nat × Flow) := []
  /-- The number of the next flow. -/
  nextFlow : Nat := 0
  deriving Repr, DecidableEq

/-- What a step of the coordinator leads to. -/
structure Reaction where
  /-- The coordinator afterwards. -/
  coordinator : Coordinator
  /-- What is asked of the services, in order. -/
  requests : List Request := []
  /-- What the agent is told, in order. -/
  instructions : List Instruction := []

/-- What the coordinator sees of its surroundings at a step. -/
structure Surroundings where
  /-- The accounts that hold credentials. -/
  held : List AccountId
  /-- The account that is signed in. -/
  primary : Option AccountId

namespace Coordinator

/-- The flow under a number. -/
def flow? (c : Coordinator) (f : Nat) : Option Flow :=
  (c.flows.find? (·.1 = f)).map (·.2)

/-- Adds a flow, under a number of its own. -/
def enter (c : Coordinator) (flow : Flow) : Coordinator :=
  { c with flows := c.flows ++ [(c.nextFlow, flow)], nextFlow := c.nextFlow + 1 }

/-- Replaces the flow under a number. -/
def update (c : Coordinator) (f : Nat) (flow : Flow) : Coordinator :=
  { c with flows := c.flows.map fun e => if e.1 = f then (f, flow) else e }

/-- Ends the flow under a number. -/
def leave (c : Coordinator) (f : Nat) : Coordinator :=
  { c with flows := c.flows.filter (·.1 ≠ f) }

/-- Records something that was learned for a pass, unless that pass is no longer the current one. -/
def learn (c : Coordinator) (passId : Nat) (change : PassState → PassState) : Coordinator :=
  if c.state.passId = passId then { c with state := change c.state } else c

/-! ## Passes -/

/-- Starts a pass unless one is in flight; tells the number of its flow. -/
def start (c : Coordinator) : Coordinator × Option Nat :=
  if c.state.started then (c, none)
  else
    let passId := c.state.passId + 1
    ({ c with state := .begin passId }.enter (.queued passId), some c.nextFlow)

/-- Gives up the pass in flight. With none in flight, what the last one learned stays. -/
def abort (c : Coordinator) : Coordinator :=
  if c.state.started then { c with state := .idle (c.state.passId + 1) } else c

/-- What the agent is told at the end of a pass that knows all that is needed. -/
def planned (state : PassState) (primary : Option AccountId) : List Instruction :=
  match primary with
  | none => []
  | some p =>
    match plan p state.session state.valid state.invalid with
    | .ok actions => actions.map .perform
    | .error _ => []

/-- Ends a pass for which no answer is due any more. Steps are calls and completions, with nothing
in between: whether the pass is current is asked, and the plan handed over, in one step. A process
that lets go of the state between the two can be told to give up the pass after it was found to be
current and before its first action; here that call comes before the step or after it. -/
def finish (c : Coordinator) (s : Surroundings) (f passId : Nat) : Reaction :=
  let c := c.leave f
  if c.state.passId = passId ∧ c.state.started then
    { coordinator := { c with state := { c.state with started := false } }
      instructions := if c.state.isReady then planned c.state s.primary else [] }
  else { coordinator := c }

/-- Goes on with a pass: it ends when neither the account list nor a check is due. -/
def proceed (c : Coordinator) (s : Surroundings) (f passId : Nat) (listDue : Bool)
    (checks : Checks) : Reaction :=
  if !listDue && checks.isEmpty then c.finish s f passId
  else { coordinator := c.update f (.pass passId listDue checks) }

/-! ## Checks -/

/-- The checks of all accounts that hold credentials. -/
def checksOf (s : Surroundings) : Checks :=
  s.held.map fun a => (a, .minting)

/-- The requests with which checks begin. -/
def mintRequests (s : Surroundings) (f : Nat) : List Request :=
  s.held.map (.mint f)

/-- Records that all checks have come to an end, if they have. -/
def closeChecks (c : Coordinator) (passId : Nat) (checks : Checks) : Coordinator :=
  if checks.isEmpty then c.learn passId fun st => { st with tokensChecked := true } else c

/-- Records the end of a check; the result of an account that has lost its credentials is dropped.
-/
def recordCheck (c : Coordinator) (s : Surroundings) (passId : Nat) (a : AccountId)
    (validity : Validity) : Coordinator :=
  if s.held.contains a then c.learn passId fun st => st.record a validity else c

/-- Goes on with the flow under a number after some of its checks have changed. -/
def continueWith (c : Coordinator) (s : Surroundings) (f : Nat) (checks : Checks) : Reaction :=
  match c.flow? f with
  | some (.pass passId listDue _) =>
    (c.closeChecks passId checks).proceed s f passId listDue checks
  | some (.checking passId _) =>
    let c := c.closeChecks passId checks
    { coordinator := if checks.isEmpty then c.leave f else c.update f (.checking passId checks) }
  | _ => { coordinator := c }

/-- Ends the check of an account. -/
def resolve (c : Coordinator) (s : Surroundings) (f : Nat) (a : AccountId) (validity : Validity) :
    Reaction :=
  match (c.flow? f).bind Flow.checks? with
  | some (passId, checks) =>
    (c.recordCheck s passId a validity).continueWith s f (checks.filter (·.1 ≠ a))
  | none => { coordinator := c }

/-- What the check of an account in a flow waits for. -/
def check? (c : Coordinator) (f : Nat) (a : AccountId) : Option Check :=
  match (c.flow? f).bind Flow.checks? with
  | some (_, checks) => (checks.find? (·.1 = a)).map (·.2)
  | none => none

/-- The check of an account in a flow goes on to the owner of an access token. -/
def identify (c : Coordinator) (f : Nat) (a : AccountId) (token : String) : Coordinator :=
  let next (checks : Checks) : Checks :=
    checks.map fun e => if e.1 = a then (a, .identifying token) else e
  match c.flow? f with
  | some (.pass passId listDue checks) => c.update f (.pass passId listDue (next checks))
  | some (.checking passId checks) => c.update f (.checking passId (next checks))
  | _ => c

/-! ## Beginnings -/

/-- A pass that was started asks for what it needs. -/
def launch (c : Coordinator) (s : Surroundings) (f : Nat) : Reaction :=
  match c.flow? f with
  | some (.queued passId) =>
    { coordinator := (c.update f (.pass passId true (checksOf s))).closeChecks passId (checksOf s)
      requests := .list f :: mintRequests s f }
  | _ => { coordinator := c }

/-- Reads the session outside a pass. -/
def readSession (c : Coordinator) : Reaction :=
  { coordinator := c.enter (.reading c.state.passId), requests := [.list c.nextFlow] }

/-- Checks the accounts that hold credentials outside a pass. -/
def checkAccounts (c : Coordinator) (s : Surroundings) : Reaction :=
  if s.held.isEmpty then { coordinator := c.closeChecks c.state.passId [] }
  else
    { coordinator := c.enter (.checking c.state.passId (checksOf s))
      requests := mintRequests s c.nextFlow }

/-- Removes an account from the session. -/
def removeAccount (c : Coordinator) (a : AccountId) : Reaction :=
  { coordinator := c.enter (.removal a)
    requests := [.list c.nextFlow]
    instructions := [.startRemoval a] }

/-! ## Answers -/

/-- The account list of the session arrives. -/
def listed (c : Coordinator) (s : Surroundings) (f : Nat) (answer : Except CallError String) :
    Reaction :=
  let session := accountsOfAnswer answer
  let learnSession (passId : Nat) : Coordinator :=
    match session with
    | .ok accounts => c.learn passId fun st => st.setSession accounts
    | .error _ => c
  match c.flow? f with
  | some (.pass passId true checks) => (learnSession passId).proceed s f passId false checks
  | some (.reading passId) => { coordinator := (learnSession passId).leave f }
  | some (.removal a) =>
    let c := match session with | .ok _ => c.abort | .error _ => c
    { coordinator := c.leave f, instructions := [.finishRemoval a session] }
  | _ => { coordinator := c }

/-- The access token of an account arrives. -/
def minted (c : Coordinator) (s : Surroundings) (f : Nat) (a : AccountId)
    (answer : Except TokenError String) : Reaction :=
  match c.check? f a with
  | some .minting =>
    match answer with
    | .ok token => { coordinator := c.identify f a token, requests := [.identify f a token] }
    | .error _ => c.resolve s f a .invalid
  | _ => { coordinator := c }

/-- The owner of an access token arrives. -/
def identified (c : Coordinator) (s : Surroundings) (f : Nat) (a : AccountId)
    (answer : Except CallError TokenOwner) : Reaction :=
  match c.check? f a with
  | some (.identifying _) =>
    match answer with
    | .ok _ => c.resolve s f a .valid
    | .error _ => c.resolve s f a .invalid
  | _ => { coordinator := c }

end Coordinator

/-! ## Events -/

/-- What can happen to the coordinator. -/
inductive CoordinatorEvent
  /-- A pass is to be started. -/
  | start
  /-- The pass in flight is to be given up. -/
  | abort
  /-- A pass that was started gets its turn. -/
  | launch (flow : Nat)
  /-- The session is to be read. -/
  | readSession
  /-- The accounts that hold credentials are to be checked. -/
  | checkAccounts
  /-- An account is to be removed from the session. -/
  | removeAccount (account : AccountId)
  /-- The account list of the session arrives. -/
  | listed (flow : Nat) (answer : Except CallError String)
  /-- An access token arrives. -/
  | minted (flow : Nat) (account : AccountId) (answer : Except TokenError String)
  /-- The owner of an access token arrives. -/
  | identified (flow : Nat) (account : AccountId) (answer : Except CallError TokenOwner)

/-- What an event leads to. -/
def Coordinator.step (c : Coordinator) (s : Surroundings) : CoordinatorEvent → Reaction
  | .start => { coordinator := c.start.1 }
  | .abort => { coordinator := c.abort }
  | .launch f => c.launch s f
  | .readSession => c.readSession
  | .checkAccounts => c.checkAccounts s
  | .removeAccount a => c.removeAccount a
  | .listed f answer => c.listed s f answer
  | .minted f a answer => c.minted s f a answer
  | .identified f a answer => c.identified s f a answer

end SessionSync
