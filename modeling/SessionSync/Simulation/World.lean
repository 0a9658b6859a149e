import SessionSync.Simulation.Services
import SessionSync.Supervision.EventLoop

/-!
# A world to run in

A `World` is everything that runs together: the coordinator, its services, the worker, the profile
and the supervisor, with a clock that only moves when it is told to. Tasks get their turns in the
order in which they became ready, each until it has to wait; an answer that is there at once is
taken up in the same turn, and any other makes the task that waits for it ready again.

`World.settle` gives turns until no task is ready.
-/

namespace SessionSync

/-! ## Tasks -/

/-- What a timer is for. -/
inductive TimerUse
  /-- A pass is started. -/
  | pass
  /-- The account file is read again. -/
  | sync
  deriving Repr, DecidableEq

/-- What gets turns. -/
inductive Task
  /-- A reading of the session that is to begin. -/
  | beginReading
  /-- A checking of the accounts that is to begin. -/
  | beginChecking
  /-- A removal that is to begin. -/
  | beginRemoval (account : AccountId)
  /-- A flow of the coordinator. -/
  | flow (f : Nat)
  /-- The worker. -/
  | worker
  /-- A task that listens to the store. -/
  | listener (task : Nat)
  /-- The loop of the supervisor. -/
  | loop
  /-- A timer. -/
  | timer (use : TimerUse) (task : Nat)
  deriving Repr, DecidableEq

/-- An answer on its way to a flow. -/
inductive Arrival
  /-- The account list can be had. -/
  | list
  /-- The access token of an account. -/
  | token (account : AccountId) (answer : Except TokenError String)
  /-- The owner of an access token of an account can be had. -/
  | info (account : AccountId) (token : String)

/-- A timer. -/
structure Timer where
  /-- What it is for. -/
  use : TimerUse
  /-- Its number. -/
  task : Nat
  /-- The seconds between two times it goes off. -/
  period : Nat
  /-- When it goes off next; it does not run before its first turn. -/
  due : Option Nat := none
  deriving Repr, DecidableEq

/-- Everything that runs together. -/
structure World where
  /-- The coordinator. -/
  coordinator : Coordinator := {}
  /-- The token service. -/
  tokens : TokenSource
  /-- The session. -/
  session : ScriptedSession := {}
  /-- The worker, if the agent carries out what it is told. -/
  worker : Option Worker
  /-- The profile. -/
  profile : Profile
  /-- The supervisor, if there is one. -/
  eventLoop : Option EventLoop := none
  /-- The seconds between two periodic passes. -/
  passPeriod : Nat := 0
  /-- The timers. -/
  timers : List Timer := []
  /-- The number of the next timer that does not belong to the supervisor. -/
  nextSync : Nat := 0
  /-- The tasks that are ready, in the order of their turns. -/
  ready : List Task := []
  /-- The answers on their way to flows, in the order of their arrival. -/
  arrivals : List (Nat × Arrival) := []
  /-- The answer on its way to the worker. -/
  workerAnswer : Option (Except TokenError String) := none
  /-- The seconds that have passed. -/
  clock : Nat := 0
  /-- The time of day, which stands still. -/
  now : Int64
  /-- What the agent has been told since the last report, oldest first. -/
  instructions : List Instruction := []

namespace World

/-- Makes a task ready, unless it is. -/
def wake (w : World) (t : Task) : World :=
  if w.ready.contains t then w else { w with ready := w.ready ++ [t] }

/-- A task that begins is ready in any case. -/
def spawn (w : World) (t : Task) : World :=
  { w with ready := w.ready ++ [t] }

/-- What the coordinator sees. -/
def surroundings (w : World) : Surroundings :=
  ⟨w.tokens.held, w.profile.primary⟩

/-! ## The agent -/

/-- The agent is told something: an adoption goes to the token service, an operation on the session
to the worker. Without a worker it is only noted. -/
def instruct (w : World) (c : Instruction) : World :=
  let w := { w with instructions := w.instructions ++ [c] }
  match w.worker with
  | none => w
  | some worker =>
    let w :=
      match c with
      | .perform (.adopt a place) => { w with tokens := w.tokens.adopt w.now a place }
      | _ => w
    match c.operation? with
    | none => w
    | some op =>
      let w := { w with worker := some (worker.enqueue op) }
      if worker.stage = .idle then w.wake .worker else w

/-- The agent is told several things. -/
def instructAll (w : World) (instructions : List Instruction) : World :=
  instructions.foldl instruct w

/-! ## Requests of the coordinator -/

/-- Takes over a reaction that asks for nothing more. -/
def accept (w : World) (r : Reaction) : World :=
  { w with coordinator := r.coordinator }.instructAll r.instructions

/-- Asks for the owner of an access token. -/
def askInfo (w : World) (f : Nat) (a : AccountId) (token : String) : World :=
  let (session, answer) := w.session.askInfo f a token
  let w := { w with session }
  match answer with
  | some answer => w.accept (w.coordinator.identified w.surroundings f a answer)
  | none => w

/-- Takes over the reaction to an access token. -/
def acceptToken (w : World) (r : Reaction) : World :=
  r.requests.foldl
    (fun w request =>
      match request with
      | .identify f a token => w.askInfo f a token
      | _ => w)
    (w.accept r)

/-- Asks for an access token. -/
def askToken (w : World) (f : Nat) (a : AccountId) : World :=
  let (tokens, answer) := w.tokens.ask w.now a (.check f)
  let w := { w with tokens }
  match answer with
  | some answer => w.acceptToken (w.coordinator.minted w.surroundings f a answer)
  | none => w

/-- Asks for the account list. -/
def askList (w : World) (f : Nat) : World :=
  let (session, answer) := w.session.askList f
  let w := { w with session }
  match answer with
  | some answer => w.accept (w.coordinator.listed w.surroundings f answer)
  | none => w

/-- Asks for what a flow needs. -/
def ask (w : World) : Request → World
  | .list f => w.askList f
  | .mint f a => w.askToken f a
  | .identify f a token => w.askInfo f a token

/-- Takes over a reaction: the agent is told, and then the services are asked. -/
def react (w : World) (r : Reaction) : World :=
  r.requests.foldl ask (w.accept r)

/-! ## Turns -/

/-- An answer reaches a flow. -/
def arrive (w : World) (f : Nat) : Arrival → World
  | .list => w.react (w.coordinator.listed w.surroundings f w.session.listAnswer)
  | .token a answer => w.react (w.coordinator.minted w.surroundings f a answer)
  | .info a token => w.react (w.coordinator.identified w.surroundings f a (w.session.infoFor token))

/-- A flow gets its turn: it begins, or takes up what has arrived for it. -/
def turnFlow (w : World) (f : Nat) : World :=
  match w.coordinator.flow? f with
  | some (.queued _) => w.react (w.coordinator.launch w.surroundings f)
  | _ =>
    let (mine, others) := w.arrivals.partition (·.1 = f)
    mine.foldl (fun w arrival => w.arrive f arrival.2) { w with arrivals := others }

/-- The worker asks for something, and goes on as long as answers are there at once. -/
def workOn : Nat → World → Worker × Option WorkerRequest → World
  | 0, w, step => { w with worker := some step.1 }
  | fuel + 1, w, (worker, request) =>
    let w := { w with worker := some worker }
    match request with
    | none => w
    | some (.merge token) =>
      workOn fuel { w with session := w.session.change (.merge token) } worker.answered
    | some .logout => workOn fuel { w with session := w.session.change .logout } worker.answered
    | some (.mint a) =>
      let (tokens, answer) := w.tokens.ask w.now a .worker
      let w := { w with tokens }
      match answer with
      | some answer => workOn fuel w (worker.minted answer)
      | none => w

/-- The worker gets its turn; it makes no more requests than its backlog allows. -/
def turnWorker (w : World) : World :=
  match w.worker with
  | none => w
  | some worker =>
    let fuel := worker.backlog + 2
    match w.workerAnswer with
    | some answer => workOn fuel { w with workerAnswer := none } (worker.minted answer)
    | none => workOn fuel w worker.wake

/-- Starts a pass, and tells whether it was started. -/
def startPass (w : World) : World × Bool :=
  let (coordinator, flow) := w.coordinator.start
  let w := { w with coordinator }
  match flow with
  | some f => (w.spawn (.flow f), true)
  | none => (w, false)

/-- Gives up the pass in flight. -/
def abortPass (w : World) : World :=
  { w with coordinator := w.coordinator.abort }

/-- A timer begins. -/
def addTimer (w : World) (t : Timer) : World :=
  { w with timers := w.timers ++ [t] }.spawn (.timer t.use t.task)

/-- A timer ends. -/
def dropTimer (w : World) (use : TimerUse) (task : Nat) : World :=
  { w with
    timers := w.timers.filter fun t => t.use ≠ use || t.task ≠ task
    ready := w.ready.filter (· ≠ .timer use task) }

/-- Carries out an order of the supervisor, as far as it does not concern the event loop. -/
def obey (w : World) : Order → World
  | .listen task => w.spawn (.listener task)
  | .stopListening task => { w with ready := w.ready.filter (· ≠ .listener task) }
  | .startTimer task => w.addTimer ⟨.pass, task, w.passPeriod, none⟩
  | .stopTimer task => w.dropTimer .pass task
  | .startPass => w.startPass.1
  | .abortPass => w.abortPass
  | .removeAccount a => w.spawn (.beginRemoval a)

/-- Carries out the orders of a supervisor that has changed. -/
def obeyAll (w : World) (step : EventLoop × List Order) : World :=
  step.2.foldl obey { w with eventLoop := some step.1 }

/-- The token service announces something. -/
def announce (w : World) (e : TokenEvent) : World :=
  match w.eventLoop with
  | none => w
  | some d =>
    let w := { w with eventLoop := some (d.announceToken e) }
    d.listeners.foldl (fun w l => w.wake (.listener l.1)) w

/-- The token service announces several things. -/
def announceAll (w : World) (events : List TokenEvent) : World :=
  events.foldl announce w

/-- Wakes the loop of the supervisor if something waits for it. -/
def wakeLoop (w : World) : World :=
  match w.eventLoop with
  | some d => if d.waiting.isEmpty then w else w.wake .loop
  | none => w

/-- A task that listens to the store gets its turn. -/
def turnListener (w : World) (task : Nat) : World :=
  match w.eventLoop with
  | some d => { w with eventLoop := some (d.forward task) }.wakeLoop
  | none => w

/-- The loop of the supervisor gets its turn. -/
def turnLoop (w : World) : World :=
  match w.eventLoop with
  | some d => w.obeyAll (d.turn w.tokens.announcementsKept)
  | none => w

/-- An operation of the credential store; what it announces reaches those who listen. -/
def onStore (w : World) (op : Store → Disk → Outcome α) : World × Option (Except FileError α) :=
  match w.tokens with
  | .stored store disk =>
    let o := op store disk
    ({ w with tokens := .stored o.store o.disk }.announceAll o.events, some o.result)
  | .scripted _ => (w, none)

/-- A timer goes off. -/
def fire (w : World) : TimerUse → World
  | .pass => w.startPass.1
  | .sync => (w.onStore Store.sync).1

/-- A timer gets its turn: it begins to run, or goes off if it is due. The next time is a period
after the moment it goes off. -/
def turnTimer (w : World) (t : Timer) : World :=
  let restart (u : Timer) : Timer :=
    if u = t then { t with due := some (w.clock + t.period) } else u
  let restarted : World := { w with timers := w.timers.map restart }
  match t.due with
  | none => restarted
  | some due => if due ≤ w.clock then restarted.fire t.use else w

/-- A task gets its turn. -/
def turn (w : World) : Task → World
  | .beginReading => w.react w.coordinator.readSession
  | .beginChecking => w.react (w.coordinator.checkAccounts w.surroundings)
  | .beginRemoval a => w.react (w.coordinator.removeAccount a)
  | .flow f => w.turnFlow f
  | .worker => w.turnWorker
  | .listener task => w.turnListener task
  | .loop => w.turnLoop
  | .timer use task =>
    match w.timers.find? fun t => t.use = use && t.task = task with
    | some t => w.turnTimer t
    | none => w

/-- How many turns can follow at most: every task that is ready, every event on its way to the
supervisor and every timer can make a few others ready. -/
def turnsAhead (w : World) : Nat :=
  let mailOf : Nat :=
    match w.eventLoop with
    | some d =>
      d.queue.length + d.waiting.length +
        d.listeners.foldr (fun l n => l.2.waiting.length + 2 + n) 0
    | none => 0
  16 * (w.ready.length + mailOf + (1 + w.tokens.announcementsKept) * w.timers.length + 4)

/-- Gives turns, so many at most, until no task is ready. -/
def run : Nat → World → World
  | 0, w => w
  | fuel + 1, w =>
    match w.ready with
    | [] => w
    | t :: rest => run fuel ({ w with ready := rest }.turn t)

/-- Gives turns until no task is ready. -/
def settle (w : World) : World :=
  run w.turnsAhead w

end World

end SessionSync
