import SessionSync.Simulation.World

/-!
# What can be done to a world

The stimuli of a simulation: triggers of the coordinator, changes of the scripted services, signing
in and out, events for the supervisor, the course of time, and the credential store with its
directory. None of them gives a task its turn; that is left to `World.settle`.
-/

namespace SessionSync

/-- A world in which nothing has happened; the supervisor, if there is one, begins at once. -/
def World.new (tokens : TokenSource) (carriesOut : Bool) (p : Profile) (now : Int64)
    (supervision : Option (Bool × Nat)) : World :=
  let w : World := { tokens, worker := if carriesOut then some {} else none, profile := p, now }
  match supervision with
  | none => w
  | some (periodicEnabled, period) =>
    { w with passPeriod := period }.obeyAll
      (EventLoop.new tokens.announcementsKept periodicEnabled p)

namespace World

/-! ## The token service -/

/-- Changes a scripted token service. -/
def script (w : World) (change : ScriptedTokens → ScriptedTokens) : World :=
  match w.tokens with
  | .scripted t => { w with tokens := .scripted (change t) }
  | .stored _ _ => w

/-- An account comes to hold credentials. -/
def giveCredentials (w : World) (a : AccountId) : World :=
  (w.script fun t => { t with held := t.held.add a }).announce (.available a)

/-- An account loses its credentials, if it holds any. -/
def takeCredentials (w : World) (a : AccountId) : World :=
  if w.tokens.held.contains a then
    (w.script fun t => { t with held := t.held.erase a }).announce (.revoked a)
  else w

/-- From now on every request for an access token is answered at once, or none. -/
def answerImmediately (w : World) (immediate : Bool) : World :=
  w.script fun t => { t with immediate }

/-- Something arrives for a flow. -/
def arriveLater (w : World) (f : Nat) (arrival : Arrival) : World :=
  { w with arrivals := w.arrivals ++ [(f, arrival)] }.wake (.flow f)

/-- An access token, or word that there is none, reaches the one who asked. -/
def deliver (w : World) (a : AccountId) (answer : Except TokenError String) : Asker → World
  | .check f => w.arriveLater f (.token a answer)
  | .worker => { w with workerAnswer := some answer }.wake .worker

/-- Answers the requests for access tokens that wait, of one account or of all. -/
def answerTokens (w : World) (only : Option AccountId)
    (answer : AccountId → Except TokenError String) : World :=
  match w.tokens with
  | .scripted t =>
    let (matched, rest) := t.waiting.partition fun r => only.all (· = r.1)
    matched.foldl (fun w r => w.deliver r.1 (answer r.1) r.2)
      { w with tokens := .scripted { t with waiting := rest } }
  | .stored _ _ => w

/-! ## The session -/

/-- Changes the scripted session. -/
def scriptSession (w : World) (change : ScriptedSession → ScriptedSession) : World :=
  { w with session := change w.session }

/-- The session lets go of the account lists that it held back, and holds back none from now on. -/
def releaseLists (w : World) : World :=
  w.session.listWaiting.foldl
    (fun w f => w.arriveLater f .list)
    (w.scriptSession fun s => { s with listHeld := false, listWaiting := [] })

/-- The session lets go of the owners that it held back, and holds back none from now on. -/
def releaseInfos (w : World) : World :=
  w.session.infoWaiting.foldl
    (fun w r => w.arriveLater r.1 (.info r.2.1 r.2.2))
    (w.scriptSession fun s => { s with infoHeld := false, infoWaiting := [] })

/-! ## The profile -/

/-- The profile announces something. -/
def announceProfile (w : World) (e : ProfileEvent) : World :=
  match w.eventLoop with
  | some d => { w with eventLoop := some (d.announceProfile e) }.wakeLoop
  | none => w

/-- The profile changes. -/
def changeProfile (w : World) (step : Profile × List ProfileEvent) : World :=
  step.2.foldl announceProfile { w with profile := step.1 }

/-- An account signs in. -/
def signIn (w : World) (a : AccountId) : World :=
  w.changeProfile (w.profile.signIn a)

/-- The primary account signs out. -/
def signOut (w : World) : World :=
  w.changeProfile w.profile.signOut

/-! ## The supervisor -/

/-- Begins the loop of the supervisor, and tells whether it had not begun before. -/
def startLoop (w : World) : World × Bool :=
  match w.eventLoop with
  | none => (w, false)
  | some d =>
    let (d, started) := d.startLoop
    let w := { w with eventLoop := some d }
    (if started then w.spawn .loop else w, started)

/-- The supervisor handles an event on the spot. -/
def handle (w : World) (e : SupervisorEvent) : World :=
  match w.eventLoop with
  | none => w
  | some d => w.obeyAll (d.handle w.tokens.announcementsKept e)

/-- Puts an event into the queue of the supervisor, and tells whether it was taken. -/
def send (w : World) (e : SupervisorEvent) : World × Bool :=
  match w.eventLoop with
  | none => (w, false)
  | some d =>
    let (d, taken) := d.send e
    ({ w with eventLoop := some d }.wakeLoop, taken)

/-- Shuts everything down and waits until it has ended. -/
def shutdown (w : World) : World :=
  match w.eventLoop with
  | none => w
  | some d => (w.obeyAll (d.shutdown w.tokens.announcementsKept)).settle

/-! ## Time -/

/-- Timers in the order in which they go off. -/
def dueBefore (t u : Timer) : Bool :=
  t.due.getD 0 ≤ u.due.getD 0

/-- Time passes at one go; the timers that are due by then are ready. -/
def advance (w : World) (secs : Nat) : World :=
  let w := { w with clock := w.clock + secs }
  let dueNow := w.timers.filter fun t => t.due.any (· ≤ w.clock)
  (dueNow.mergeSort dueBefore).foldl (fun w t => w.wake (.timer t.use t.task)) w

/-- From now on the account file is read again after every so many seconds. -/
def startSync (w : World) (secs : Nat) : World :=
  { w with nextSync := w.nextSync + 1 }.addTimer ⟨.sync, w.nextSync, secs, none⟩

/-- The account file is no longer read again and again. -/
def stopSync (w : World) : World :=
  (w.timers.filter (·.use = .sync)).foldl (fun w t => w.dropTimer t.use t.task) w

/-! ## The data directory -/

/-- Somebody else changes the directory. -/
def onDisk (w : World) (change : Disk → Disk) : World :=
  match w.tokens with
  | .stored store disk => { w with tokens := .stored store (change disk) }
  | .scripted _ => w

/-! ## Reports -/

/-- The world after what the agent was told and what the session was asked have been reported. -/
def reported (w : World) : World :=
  { w with instructions := [] }.scriptSession fun s => { s with changes := [] }

end World

end SessionSync
