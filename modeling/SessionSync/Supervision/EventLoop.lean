import SessionSync.Service.Mailbox
import SessionSync.Supervision.Supervisor

/-!
# The event loop of the supervisor

How events reach the supervisor. What the store announces is put into the mailbox of every listening
task; the task passes it on to one queue, into which others may put events, too. A loop takes events
out of that queue and out of its own mailbox for what the profile announces, and has the supervisor
handle them. Tasks and loop get their turns in any order.
-/

namespace SessionSync

/-- How far the loop is. -/
inductive LoopPhase
  /-- It has not begun. -/
  | notStarted
  /-- It runs, with its mailbox for what the profile announces. -/
  | running (mail : Mailbox ProfileEvent)
  /-- It has ended. -/
  | ended
  deriving Repr, DecidableEq

/-- The event loop: the supervisor, with the tasks and the queue that bring events to it. -/
structure EventLoop where
  /-- The supervisor. -/
  supervisor : Supervisor
  /-- The listening tasks with their mailboxes. -/
  listeners : List (Nat × Mailbox TokenEvent) := []
  /-- The queue of events, oldest first. -/
  queue : List SupervisorEvent := []
  /-- The loop. -/
  loop : LoopPhase := .notStarted
  deriving Repr, DecidableEq

namespace EventLoop

/-! ## What is sent -/

/-- The store announces something. -/
def announceToken (d : EventLoop) (e : TokenEvent) : EventLoop :=
  { d with listeners := d.listeners.map fun l => (l.1, l.2.post e) }

/-- The profile announces something. -/
def announceProfile (d : EventLoop) (e : ProfileEvent) : EventLoop :=
  match d.loop with
  | .running mail => { d with loop := .running (mail.post e) }
  | _ => d

/-- Puts an event into the queue, and tells whether it was taken; nothing is once the loop has
ended. -/
def send (d : EventLoop) (e : SupervisorEvent) : EventLoop × Bool :=
  match d.loop with
  | .ended => (d, false)
  | _ => ({ d with queue := d.queue ++ [e] }, true)

/-! ## Turns -/

/-- A listening task passes on what has reached it; word of lost announcements it keeps to itself.
-/
def forward (d : EventLoop) (task : Nat) : EventLoop :=
  match d.listeners.find? (·.1 = task) with
  | none => d
  | some (_, mail) =>
    let passedOn := mail.deliveries.filterMap fun
      | .message e => some (SupervisorEvent.ofToken e)
      | .lagged _ => none
    let listeners := d.listeners.map fun l => if l.1 = task then (task, mail.drained) else l
    passedOn.foldl (fun d e => (d.send e).1) { d with listeners }

/-- Carries out the orders that concern the event loop itself; a new mailbox keeps so many messages.
-/
def obey (capacity : Nat) (d : EventLoop) : Order → EventLoop
  | .listen task => { d with listeners := d.listeners ++ [(task, .empty capacity)] }
  | .stopListening task => { d with listeners := d.listeners.filter (·.1 ≠ task) }
  | _ => d

/-- The supervisor handles an event. -/
def handle (capacity : Nat) (d : EventLoop) (e : SupervisorEvent) : EventLoop × List Order :=
  let (s, orders) := d.supervisor.handle e
  (orders.foldl (obey capacity) { d with supervisor := s }, orders)

/-- The supervisor handles events one after the other. -/
def handleAll (capacity : Nat) (d : EventLoop) : List SupervisorEvent → EventLoop × List Order
  | [] => (d, [])
  | e :: rest =>
    let (d, orders) := d.handle capacity e
    let (d, more) := d.handleAll capacity rest
    (d, orders ++ more)

/-- The events that the loop finds at its turn: those in the queue, and then what the profile has
announced. -/
def waiting (d : EventLoop) : List SupervisorEvent :=
  match d.loop with
  | .running mail =>
    d.queue ++ mail.deliveries.filterMap fun
      | .message e => some (.ofProfile e)
      | .lagged _ => none
  | _ => []

/-- The event loop after the loop has taken what it finds. -/
def cleared (d : EventLoop) : EventLoop :=
  match d.loop with
  | .running mail => { d with queue := [], loop := .running mail.drained }
  | _ => d

/-- The loop gets its turn. -/
def turn (capacity : Nat) (d : EventLoop) : EventLoop × List Order :=
  if d.supervisor.closed then ({ d with queue := [], loop := .ended }, [])
  else d.cleared.handleAll capacity d.waiting

/-! ## Beginning and end -/

/-- The loop begins, and tells whether it had not begun before. -/
def startLoop (d : EventLoop) : EventLoop × Bool :=
  match d.loop with
  | .notStarted => ({ d with loop := .running (.empty Profile.announcementsKept) }, true)
  | _ => (d, false)

/-- The event loop of a new supervisor. -/
def new (capacity : Nat) (periodicEnabled : Bool) (p : Profile) : EventLoop × List Order :=
  let (s, orders) := Supervisor.new periodicEnabled p
  (orders.foldl (obey capacity) { supervisor := s }, orders)

/-- Everything is shut down: the loop, if it has begun, ends. -/
def shutdown (capacity : Nat) (d : EventLoop) : EventLoop × List Order :=
  let (s, orders) := d.supervisor.shutdown
  let d := orders.foldl (obey capacity) { d with supervisor := s }
  match d.loop with
  | .running _ => ({ d with queue := [], loop := .ended }, orders)
  | _ => (d, orders)

end EventLoop

end SessionSync
