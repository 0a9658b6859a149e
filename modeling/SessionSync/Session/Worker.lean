import SessionSync.Pass.Coordinator

/-!
# The session worker

The agent does not change the session at once. It queues operations, and one worker carries them
out one after the other, so that what was asked for first is also done first. The worker has at most
one request outstanding; whatever the answer is, it goes on with what comes next.
-/

namespace SessionSync

/-! ## Operations -/

/-- A change of the session that waits to be made. -/
inductive Operation
  /-- Add an account. -/
  | merge (account : AccountId)
  /-- Sign every account out. -/
  | logoutAll
  /-- Sign one account out: every account is signed out, and the others are added again. -/
  | logoutAccount (account : AccountId) (session : List AccountId)
  deriving Repr, DecidableEq

/-- The operation that the agent queues when it is told something. A removal is of no use when the
account is not in the session or the session could not be read. -/
def Instruction.operation? : Instruction → Option Operation
  | .perform (.merge a) => some (.merge a)
  | .perform .logoutAll => some .logoutAll
  | .perform (.adopt _ _) => none
  | .startRemoval _ => none
  | .finishRemoval a (.ok session) =>
    if session.contains a then some (.logoutAccount a session) else none
  | .finishRemoval _ (.error _) => none

/-! ## The worker -/

/-- What the worker waits for, with the accounts that are still to be added for the same operation.
-/
inductive Stage
  /-- For an operation. -/
  | idle
  /-- For the access token of an account that is to be added. -/
  | minting (account : AccountId) (rest : List AccountId)
  /-- For an account to be added. -/
  | merging (rest : List AccountId)
  /-- For all accounts to be signed out. -/
  | loggingOut (rest : List AccountId)
  deriving Repr, DecidableEq

/-- What the worker asks for. -/
inductive WorkerRequest
  /-- An access token of an account. -/
  | mint (account : AccountId)
  /-- To add the owner of an access token to the session. -/
  | merge (token : String)
  /-- To sign every account out of the session. -/
  | logout
  deriving Repr, DecidableEq

/-- The worker with its queue. -/
structure Worker where
  /-- The operations that wait, oldest first. -/
  queue : List Operation := []
  /-- What the worker waits for. -/
  stage : Stage := .idle
  deriving Repr, DecidableEq

namespace Worker

/-- Queues an operation. -/
def enqueue (w : Worker) (op : Operation) : Worker :=
  { w with queue := w.queue ++ [op] }

/-- Begins to add accounts. -/
def mergeNext (queue : List Operation) (a : AccountId) (rest : List AccountId) :
    Worker × Option WorkerRequest :=
  (⟨queue, .minting a rest⟩, some (.mint a))

/-- Begins with the next operation. -/
def takeNext : List Operation → Worker × Option WorkerRequest
  | [] => (⟨[], .idle⟩, none)
  | .merge a :: queue => mergeNext queue a []
  | .logoutAll :: queue => (⟨queue, .loggingOut []⟩, some .logout)
  | .logoutAccount a session :: queue =>
    (⟨queue, .loggingOut (session.filter (· ≠ a))⟩, some .logout)

/-- Goes on with the accounts that are still to be added, or else with the next operation. -/
def goOn (queue : List Operation) : List AccountId → Worker × Option WorkerRequest
  | a :: rest => mergeNext queue a rest
  | [] => takeNext queue

/-- The worker gets its turn; it begins with the next operation if it has none in hand. -/
def wake (w : Worker) : Worker × Option WorkerRequest :=
  match w.stage with
  | .idle => takeNext w.queue
  | _ => (w, none)

/-- The access token of an account arrives. Without one the account is passed over. -/
def minted (w : Worker) (answer : Except TokenError String) : Worker × Option WorkerRequest :=
  match w.stage with
  | .minting _ rest =>
    match answer with
    | .ok token => (⟨w.queue, .merging rest⟩, some (.merge token))
    | .error _ => goOn w.queue rest
  | _ => (w, none)

/-- The session has answered, with success or not. -/
def answered (w : Worker) : Worker × Option WorkerRequest :=
  match w.stage with
  | .merging rest => goOn w.queue rest
  | .loggingOut rest => goOn w.queue rest
  | _ => (w, none)

/-! ## How much is left to do -/

/-- How many requests an operation makes at most. -/
def opSize : Operation → Nat
  | .merge _ => 2
  | .logoutAll => 1
  | .logoutAccount _ session => 1 + 2 * session.length

/-- How many requests operations make at most, one after the other. -/
def opSizes (ops : List Operation) : Nat :=
  ops.foldr (fun op n => opSize op + n) 0

/-- How many requests the worker still makes at most, not counting one that is outstanding. -/
def backlog (w : Worker) : Nat :=
  opSizes w.queue +
    match w.stage with
    | .idle => 0
    | .minting _ rest => 1 + 2 * rest.length
    | .merging rest => 2 * rest.length
    | .loggingOut rest => 2 * rest.length

theorem backlog_mergeNext (queue : List Operation) (a : AccountId) (rest : List AccountId) :
    (mergeNext queue a rest).1.backlog = opSizes queue + 1 + 2 * rest.length := by
  simp [mergeNext, backlog, Nat.add_assoc]

end Worker

end SessionSync
