import SessionSync.Proofs.Supervision.ProfileLoop
import SessionSync.Simulation.Stimulus

/-!
# The background tasks of the supervisor

In a world the supervisor keeps a task that listens to the store and a timer that makes passes. They
begin and end with the orders that it gives; nothing else that happens begins one or ends one.

* `BackgroundTasks` — the supervisor and the tasks that run for it.
* `Happening` — what can happen in a world before everything is shut down, in any order;
  `exists_happenings` says that turns are given in this way.
* `tasks_obeyAll`, `EventLoop.Kept.handle` — what orders do, and what handling an event does.
* `tasksKept_undergo`, `tasksKept_run` — one happening, and a whole run.
* `one_task_each` — the tasks that run are those that the supervisor keeps, at most one of each
  kind.
-/

namespace SessionSync

/-- The supervisor of a world and the tasks that run for it. -/
structure BackgroundTasks where
  /-- The supervisor, if there is one. -/
  supervisor : Option Supervisor
  /-- The tasks that listen to the store. -/
  listeners : List Nat
  /-- The timers that make passes. -/
  timers : List Nat

/-- The tasks that run are those that the supervisor keeps. -/
def TasksKept (periodic : Bool) (tasks : BackgroundTasks) : Prop :=
  ∃ s : Supervisor, s.InStep periodic ∧ tasks = ⟨some s, s.listener.toList, s.timer.toList⟩

namespace World

/-- The supervisor and the tasks that run for it. -/
def tasks (w : World) : BackgroundTasks where
  supervisor := w.eventLoop.map (·.supervisor)
  listeners := w.eventLoop.elim [] fun d => d.listeners.map (·.1)
  timers := (w.timers.filter (·.use = .pass)).map (·.task)

/-- What can happen in a world before everything is shut down. -/
inductive Happening
  /-- The supervisor handles an event on the spot. -/
  | handle (e : SupervisorEvent)
  /-- An event is put into the queue of the supervisor. -/
  | send (e : SupervisorEvent)
  /-- The loop of the supervisor begins. -/
  | startLoop
  /-- An account signs in. -/
  | signIn (account : AccountId)
  /-- The primary account signs out. -/
  | signOut
  /-- The token service announces something. -/
  | announce (e : TokenEvent)
  /-- Time passes. -/
  | advance (secs : Nat)
  /-- From now on the account file is read again and again. -/
  | startSync (secs : Nat)
  /-- The account file is no longer read again and again. -/
  | stopSync
  /-- A task gets its turn. -/
  | turn (t : Task)
  /-- Something else changes that is neither the event loop nor a timer: a trigger of the
  coordinator, an answer on its way, credentials, the session. -/
  | elsewhere (change : World → World)
      (apart : ∀ w, (change w).eventLoop = w.eventLoop ∧ (change w).timers = w.timers)

/-- What happens next. -/
def undergo (w : World) : Happening → World
  | .handle e => w.handle e
  | .send e => (w.send e).1
  | .startLoop => w.startLoop.1
  | .signIn a => w.signIn a
  | .signOut => w.signOut
  | .announce e => w.announce e
  | .advance secs => w.advance secs
  | .startSync secs => w.startSync secs
  | .stopSync => w.stopSync
  | .turn t => { w with ready := w.ready.erase t }.turn t
  | .elsewhere change _ => change w

/-- What happens one after the other. -/
def undergoAll (w : World) (happenings : List Happening) : World :=
  happenings.foldl undergo w

/-- Giving turns until no task is ready is a run of turns. -/
theorem exists_happenings (fuel : Nat) (w : World) :
    ∃ tasks : List Task, run fuel w = w.undergoAll (tasks.map .turn) := by
  induction fuel generalizing w with
  | zero => exact ⟨[], rfl⟩
  | succ fuel ih =>
    unfold run
    cases hready : w.ready with
    | nil => exact ⟨[], rfl⟩
    | cons t rest =>
      have herase : w.ready.erase t = rest := by simp [hready]
      obtain ⟨tasks, htasks⟩ := ih (w.undergo (.turn t))
      refine ⟨t :: tasks, Eq.trans ?_ htasks⟩
      rw [undergo, herase]

/-! ## What concerns no task of the supervisor -/

theorem tasks_foldl {step : World → α → World} {l : List α}
    (h : ∀ w, ∀ x ∈ l, (step w x).tasks = w.tasks) (w : World) :
    (l.foldl step w).tasks = w.tasks :=
  List.foldlRecOn (motive := fun v => v.tasks = w.tasks) l step rfl
    fun v hv x hx => (h v x hx).trans hv

theorem tasks_wake (w : World) (t : Task) : (w.wake t).tasks = w.tasks := by
  unfold wake
  split <;> rfl

theorem tasks_instruct (w : World) (c : Instruction) : (w.instruct c).tasks = w.tasks := by
  unfold instruct wake
  dsimp only
  repeat' split
  all_goals rfl

theorem tasks_accept (w : World) (r : Reaction) : (w.accept r).tasks = w.tasks :=
  tasks_foldl (fun w c _ => tasks_instruct w c) { w with coordinator := r.coordinator }

theorem tasks_askInfo (w : World) (f : Nat) (a : AccountId) (token : String) :
    (w.askInfo f a token).tasks = w.tasks := by
  unfold askInfo
  dsimp only
  split
  · rw [tasks_accept]
    rfl
  · rfl

theorem tasks_acceptToken (w : World) (r : Reaction) : (w.acceptToken r).tasks = w.tasks := by
  unfold acceptToken
  rw [tasks_foldl, tasks_accept]
  intro w q _
  split
  · exact tasks_askInfo w _ _ _
  · rfl

theorem tasks_askToken (w : World) (f : Nat) (a : AccountId) :
    (w.askToken f a).tasks = w.tasks := by
  unfold askToken
  dsimp only
  split
  · rw [tasks_acceptToken]
    rfl
  · rfl

theorem tasks_askList (w : World) (f : Nat) : (w.askList f).tasks = w.tasks := by
  unfold askList
  dsimp only
  split
  · rw [tasks_accept]
    rfl
  · rfl

theorem tasks_ask (w : World) (q : Request) : (w.ask q).tasks = w.tasks := by
  cases q with
  | list f => exact tasks_askList w f
  | mint f a => exact tasks_askToken w f a
  | identify f a token => exact tasks_askInfo w f a token

theorem tasks_react (w : World) (r : Reaction) : (w.react r).tasks = w.tasks := by
  unfold react
  rw [tasks_foldl fun w q _ => tasks_ask w q, tasks_accept]

theorem tasks_turnFlow (w : World) (f : Nat) : (w.turnFlow f).tasks = w.tasks := by
  unfold turnFlow
  split
  · exact tasks_react w _
  · refine tasks_foldl (fun w arrival _ => ?_) _
    cases arrival.2 <;> exact tasks_react w _

theorem tasks_workOn (fuel : Nat) (w : World) (step : Worker × Option WorkerRequest) :
    (workOn fuel w step).tasks = w.tasks := by
  induction fuel generalizing w step with
  | zero => rfl
  | succ fuel ih =>
    obtain ⟨worker, request⟩ := step
    unfold workOn
    dsimp only
    split
    · rfl
    · exact ih _ _
    · exact ih _ _
    · split
      · exact ih _ _
      · rfl

theorem tasks_turnWorker (w : World) : w.turnWorker.tasks = w.tasks := by
  unfold turnWorker
  split
  · rfl
  · dsimp only
    split <;> exact tasks_workOn _ _ _

theorem tasks_startPass (w : World) : w.startPass.1.tasks = w.tasks := by
  unfold startPass
  dsimp only
  split <;> rfl

/-! ### The event loop -/

/-- An event loop with the same supervisor and the same listening tasks. -/
theorem tasks_eventLoop {w : World} {d d' : EventLoop} (eventLoop : w.eventLoop = some d)
    (supervisor : d'.supervisor = d.supervisor)
    (listeners : d'.listeners.map (·.1) = d.listeners.map (·.1)) :
    ({ w with eventLoop := some d' } : World).tasks = w.tasks := by
  simp [tasks, eventLoop, supervisor, listeners]

theorem tasks_wakeLoop (w : World) : w.wakeLoop.tasks = w.tasks := by
  unfold wakeLoop
  split
  · split
    · rfl
    · exact tasks_wake w .loop
  · rfl

theorem tasks_carry {w : World} {d : EventLoop} (eventLoop : w.eventLoop = some d) (t : Traffic) :
    ({ w with eventLoop := some (d.carry t) } : World).tasks = w.tasks := by
  obtain ⟨listeners, sent, hsame, -, heq⟩ := d.carry_eq t
  rw [heq]
  exact tasks_eventLoop eventLoop rfl hsame

theorem tasks_announce (w : World) (e : TokenEvent) : (w.announce e).tasks = w.tasks := by
  unfold announce
  split
  · rfl
  · next d hevents =>
    exact (tasks_foldl (fun w l _ => tasks_wake w (.listener l.1)) _).trans
      (tasks_carry hevents (.announce e))

theorem tasks_turnListener (w : World) (task : Nat) : (w.turnListener task).tasks = w.tasks := by
  unfold turnListener
  split
  · next d hevents =>
    rw [tasks_wakeLoop]
    exact tasks_carry hevents (.forward task)
  · rfl

theorem tasks_onStore (w : World) (op : Store → Disk → Outcome α) :
    (w.onStore op).1.tasks = w.tasks := by
  unfold onStore
  split
  · exact tasks_foldl (fun w e _ => tasks_announce w e) _
  · rfl

theorem tasks_announceProfile (w : World) (e : ProfileEvent) :
    (w.announceProfile e).tasks = w.tasks := by
  unfold announceProfile
  split
  · next d hevents =>
    rw [tasks_wakeLoop]
    refine tasks_eventLoop hevents ?_ ?_
    · unfold EventLoop.announceProfile
      split <;> rfl
    · unfold EventLoop.announceProfile
      split <;> rfl
  · rfl

theorem tasks_changeProfile (w : World) (step : Profile × List ProfileEvent) :
    (w.changeProfile step).tasks = w.tasks :=
  tasks_foldl (fun w e _ => tasks_announceProfile w e) { w with profile := step.1 }

theorem tasks_send (w : World) (e : SupervisorEvent) : (w.send e).1.tasks = w.tasks := by
  unfold send
  split
  · rfl
  · next d hevents =>
    dsimp only
    rw [tasks_wakeLoop]
    refine tasks_eventLoop hevents ?_ ?_
    · unfold EventLoop.send
      split <;> rfl
    · unfold EventLoop.send
      split <;> rfl

theorem tasks_startLoop (w : World) : w.startLoop.1.tasks = w.tasks := by
  unfold startLoop
  split
  · rfl
  · next d hevents =>
    have hsame : ({ w with eventLoop := some d.startLoop.1 } : World).tasks = w.tasks := by
      refine tasks_eventLoop hevents ?_ ?_
      · unfold EventLoop.startLoop
        split <;> rfl
      · unfold EventLoop.startLoop
        split <;> rfl
    dsimp only
    split
    · exact hsame
    · exact hsame

/-! ### Timers -/

theorem tasks_startSync (w : World) (secs : Nat) : (w.startSync secs).tasks = w.tasks := by
  simp [startSync, addTimer, spawn, tasks]

theorem tasks_dropSync (w : World) (task : Nat) : (w.dropTimer .sync task).tasks = w.tasks := by
  have hfilter : (w.timers.filter fun t => t.use ≠ .sync || t.task ≠ task).filter (·.use = .pass) =
      w.timers.filter (·.use = .pass) := by
    rw [List.filter_filter]
    refine List.filter_congr fun t _ => ?_
    cases t.use <;> simp
  simp only [dropTimer, tasks, hfilter]

theorem tasks_stopSync (w : World) : w.stopSync.tasks = w.tasks := by
  refine tasks_foldl (fun w t ht => ?_) w
  have hsync : t.use = .sync := by simpa using (List.mem_filter.1 ht).2
  rw [hsync, tasks_dropSync]

theorem tasks_advance (w : World) (secs : Nat) : (w.advance secs).tasks = w.tasks :=
  (tasks_foldl (fun w t _ => tasks_wake w (.timer t.use t.task)) _).trans rfl

theorem tasks_fire (w : World) (use : TimerUse) : (w.fire use).tasks = w.tasks := by
  cases use with
  | pass => exact tasks_startPass w
  | sync => exact tasks_onStore w Store.sync

/-- A timer that goes off, or begins to run, is due again later; it is the same timer. -/
theorem tasks_restarted (w : World) (t : Timer) (due : Option Nat) :
    ({ w with timers := w.timers.map fun u => if u = t then { t with due } else u } : World).tasks =
      w.tasks := by
  have hsame : ∀ u : Timer, (if u = t then { t with due } else u).use = u.use
      ∧ (if u = t then { t with due } else u).task = u.task := by
    intro u
    split
    · next hu => exact hu ▸ ⟨rfl, rfl⟩
    · exact ⟨rfl, rfl⟩
  simp only [tasks, List.filter_map, List.map_map, Function.comp_def, hsame]

theorem tasks_turnTimer (w : World) (t : Timer) : (w.turnTimer t).tasks = w.tasks := by
  have hrestarted := tasks_restarted w t (some (w.clock + t.period))
  unfold turnTimer
  dsimp only
  split
  · exact hrestarted
  · split
    · rw [tasks_fire]
      exact hrestarted
    · rfl

/-! ## Orders -/

theorem tasks_obey (w : World) (x : Order) :
    (w.obey x).tasks = { w.tasks with timers := Supervisor.onTimers w.tasks.timers x } := by
  cases x with
  | listen task => rfl
  | stopListening task => rfl
  | startTimer task => simp [obey, addTimer, spawn, tasks, Supervisor.onTimers]
  | stopTimer task =>
    have hfilter : ((w.timers.filter fun t => t.use ≠ .pass || t.task ≠ task).filter
        (·.use = .pass)).map (·.task) =
          ((w.timers.filter (·.use = .pass)).map (·.task)).filter (· ≠ task) := by
      rw [List.filter_map, List.filter_filter, List.filter_filter]
      refine congrArg _ (List.filter_congr fun t _ => ?_)
      cases t.use <;> simp
    simp only [obey, dropTimer, tasks, hfilter, Supervisor.onTimers]
  | startPass => exact tasks_startPass w
  | abortPass => rfl
  | removeAccount a => rfl

theorem tasks_foldl_obey (orders : List Order) (w : World) : (orders.foldl obey w).tasks =
    { w.tasks with timers := orders.foldl Supervisor.onTimers w.tasks.timers } := by
  induction orders generalizing w with
  | nil => rfl
  | cons x orders ih =>
    rw [List.foldl_cons, ih, tasks_obey]
    rfl

theorem tasks_obeyAll (w : World) (d : EventLoop) (orders : List Order) :
    (w.obeyAll (d, orders)).tasks =
      ⟨some d.supervisor, d.listeners.map (·.1),
        orders.foldl Supervisor.onTimers w.tasks.timers⟩ :=
  tasks_foldl_obey orders { w with eventLoop := some d }

end World

/-! ## Handling events -/

namespace EventLoop

variable {periodic : Bool} {d : EventLoop}

/-- The listening tasks of the event loop are those that the supervisor keeps. -/
structure Kept (periodic : Bool) (d : EventLoop) : Prop where
  inStep : d.supervisor.InStep periodic
  listeners : d.listeners.map (·.1) = d.supervisor.listener.toList

/-- With an event handled, the tasks are those that the supervisor keeps then. -/
theorem Kept.handle (h : d.Kept periodic) (capacity : Nat) (e : SupervisorEvent) :
    (d.handle capacity e).1.Kept periodic
      ∧ (d.handle capacity e).2.foldl Supervisor.onTimers d.supervisor.timer.toList =
        (d.handle capacity e).1.supervisor.timer.toList := by
  have hsupervisor : (d.handle capacity e).1.supervisor = (d.supervisor.handle e).1 := by
    rw [handle_fst]
  have hcarried := (h.inStep.handling e).carriedOut
  refine ⟨⟨?_, ?_⟩, ?_⟩
  · rw [hsupervisor]
    exact (h.inStep.handle e).1
  · rw [hsupervisor, ← hcarried.1, ← h.listeners]
    exact tasks_foldl_obey (d.supervisor.handle e).2 { d with supervisor := _ }
  · rw [hsupervisor, ← hcarried.2]
    rfl

/-- A new event loop has the tasks that its supervisor keeps: none, or those of a profile that has
just signed in. -/
theorem kept_new (capacity : Nat) (periodic : Bool) (p : Profile) :
    (new capacity periodic p).1.Kept periodic
      ∧ (new capacity periodic p).2.foldl Supervisor.onTimers [] =
        (new capacity periodic p).1.supervisor.timer.toList := by
  have hfresh : Kept periodic { supervisor := { periodicEnabled := periodic } } :=
    ⟨⟨rfl, rfl, rfl⟩, rfl⟩
  unfold new Supervisor.new
  cases p.primary with
  | none => exact ⟨hfresh, rfl⟩
  | some a => exact hfresh.handle capacity (.signedIn a)

theorem Kept.handleAll (h : d.Kept periodic) (capacity : Nat) (events : List SupervisorEvent) :
    (d.handleAll capacity events).1.Kept periodic
      ∧ (d.handleAll capacity events).2.foldl Supervisor.onTimers d.supervisor.timer.toList =
        (d.handleAll capacity events).1.supervisor.timer.toList := by
  induction events generalizing d with
  | nil => exact ⟨h, rfl⟩
  | cons e events ih =>
    obtain ⟨hfirst, htimers⟩ := h.handle capacity e
    obtain ⟨hrest, hmore⟩ := ih hfirst
    refine ⟨hrest, ?_⟩
    show ((d.handle capacity e).2 ++ ((d.handle capacity e).1.handleAll capacity events).2).foldl
      _ _ = _
    rw [List.foldl_append, htimers]
    exact hmore

/-- A turn of the loop handles what it finds. -/
theorem Kept.turn (h : d.Kept periodic) (capacity : Nat) :
    (d.turn capacity).1.Kept periodic
      ∧ (d.turn capacity).2.foldl Supervisor.onTimers d.supervisor.timer.toList =
        (d.turn capacity).1.supervisor.timer.toList := by
  have hsame : d.cleared.supervisor = d.supervisor ∧ d.cleared.listeners = d.listeners := by
    unfold cleared
    split <;> exact ⟨rfl, rfl⟩
  have hcleared : d.cleared.Kept periodic := by
    refine ⟨?_, ?_⟩
    · rw [hsame.1]
      exact h.inStep
    · rw [hsame.1, hsame.2]
      exact h.listeners
  have hturn : d.turn capacity = d.cleared.handleAll capacity d.waiting := by
    rw [EventLoop.turn, h.inStep.lasting]
    rfl
  rw [hturn, ← hsame.1]
  exact hcleared.handleAll capacity d.waiting

end EventLoop

namespace World

variable {periodic : Bool} {w : World}

theorem TasksKept.exists_eventLoop (h : TasksKept periodic w.tasks) :
    ∃ d, w.eventLoop = some d ∧ d.Kept periodic ∧ w.tasks.timers = d.supervisor.timer.toList := by
  obtain ⟨s, hinStep, htasks⟩ := h
  cases hevents : w.eventLoop with
  | none =>
    have hnone := congrArg BackgroundTasks.supervisor htasks
    simp [tasks, hevents] at hnone
  | some d =>
    obtain rfl : d.supervisor = s := by
      simpa [tasks, hevents] using congrArg BackgroundTasks.supervisor htasks
    refine ⟨d, rfl, ⟨hinStep, ?_⟩, congrArg BackgroundTasks.timers htasks⟩
    simpa [tasks, hevents] using congrArg BackgroundTasks.listeners htasks

/-- Carrying out the orders of a supervisor that keeps its tasks. -/
theorem tasksKept_obeyAll {d : EventLoop} {orders : List Order} (kept : d.Kept periodic)
    (timers : orders.foldl Supervisor.onTimers w.tasks.timers = d.supervisor.timer.toList) :
    TasksKept periodic (w.obeyAll (d, orders)).tasks := by
  refine ⟨d.supervisor, kept.inStep, ?_⟩
  rw [tasks_obeyAll, kept.listeners, timers]

theorem TasksKept.handle (h : TasksKept periodic w.tasks) (e : SupervisorEvent) :
    TasksKept periodic (w.handle e).tasks := by
  obtain ⟨d, hevents, hkept, htimers⟩ := TasksKept.exists_eventLoop h
  obtain ⟨hafter, hcarried⟩ := hkept.handle w.tokens.announcementsKept e
  unfold World.handle
  rw [hevents]
  refine tasksKept_obeyAll hafter ?_
  rw [htimers]
  exact hcarried

theorem TasksKept.turnLoop (h : TasksKept periodic w.tasks) :
    TasksKept periodic w.turnLoop.tasks := by
  obtain ⟨d, hevents, hkept, htimers⟩ := TasksKept.exists_eventLoop h
  obtain ⟨hafter, hcarried⟩ := hkept.turn w.tokens.announcementsKept
  unfold World.turnLoop
  rw [hevents]
  refine tasksKept_obeyAll hafter ?_
  rw [htimers]
  exact hcarried

/-- Only the turn of the loop begins or ends tasks of the supervisor. -/
theorem tasks_turn (w : World) {t : Task} (other : t ≠ .loop) : (w.turn t).tasks = w.tasks := by
  cases t with
  | beginReading | beginChecking | beginRemoval => exact tasks_react w _
  | flow f => exact tasks_turnFlow w f
  | worker => exact tasks_turnWorker w
  | listener task => exact tasks_turnListener w task
  | loop => exact absurd rfl other
  | timer use task =>
    unfold turn
    dsimp only
    split
    · exact tasks_turnTimer w _
    · rfl

theorem tasksKept_undergo (h : TasksKept periodic w.tasks) (x : Happening) :
    TasksKept periodic (w.undergo x).tasks := by
  have kept : (w.undergo x).tasks = w.tasks → TasksKept periodic (w.undergo x).tasks := fun hsame =>
    hsame ▸ h
  cases x with
  | handle e => exact TasksKept.handle h e
  | send e => exact kept (tasks_send w e)
  | startLoop => exact kept (tasks_startLoop w)
  | signIn a => exact kept (tasks_changeProfile w _)
  | signOut => exact kept (tasks_changeProfile w _)
  | announce e => exact kept (tasks_announce w e)
  | advance secs => exact kept (tasks_advance w secs)
  | startSync secs => exact kept (tasks_startSync w secs)
  | stopSync => exact kept (tasks_stopSync w)
  | turn t =>
    by_cases hloop : t = .loop
    · subst hloop
      exact TasksKept.turnLoop (w := { w with ready := w.ready.erase .loop }) h
    · exact kept (tasks_turn { w with ready := w.ready.erase t } hloop)
  | elsewhere change apart =>
    obtain ⟨hevents, htimers⟩ := apart w
    refine kept ?_
    show (change w).tasks = w.tasks
    simp only [tasks, hevents, htimers]

theorem tasksKept_run (h : TasksKept periodic w.tasks) (happenings : List Happening) :
    TasksKept periodic (w.undergoAll happenings).tasks := by
  induction happenings generalizing w with
  | nil => exact h
  | cons x happenings ih => exact ih (tasksKept_undergo h x)

theorem tasksKept_new (tokens : TokenSource) (carriesOut periodic : Bool) (p : Profile)
    (now : Int64) (period : Nat) :
    TasksKept periodic (new tokens carriesOut p now (some (periodic, period))).tasks := by
  obtain ⟨hkept, htimers⟩ := EventLoop.kept_new tokens.announcementsKept periodic p
  exact tasksKept_obeyAll hkept htimers

/-- A supervisor that listens leaves everything as it is when somebody signs in. -/
theorem handle_signedIn_of_listening {d : EventLoop} (eventLoop : w.eventLoop = some d)
    (kept : d.Kept periodic) (listening : d.supervisor.isListening = true) (a : AccountId) :
    w.handle (.signedIn a) = w := by
  have hsame : d.handle w.tokens.announcementsKept (.signedIn a) = (d, []) := by
    unfold EventLoop.handle
    rw [kept.inStep.signedIn_of_listening listening a]
    rfl
  unfold World.handle
  rw [eventLoop]
  show w.obeyAll (d.handle w.tokens.announcementsKept (.signedIn a)) = w
  rw [hsame]
  show { w with eventLoop := some d } = w
  rw [← eventLoop]

/-- A world begins with a supervisor, and anything happens in it but shutting everything down:
events are handled and queued, the store and the profile announce things, time passes, and tasks get
their turns in any order. At every point the tasks that listen to the store, and the timers that
make passes, are those that the supervisor keeps, which is at most one of each: a listening task
exactly while the supervisor says that it listens, and a timer exactly while it says that passes are
made periodically. It says that exactly while it listens and periodic passes are enabled. Somebody
signing in while it listens changes nothing in the whole world: no mailbox, no time at which the
timer is due and nothing about the pass in flight; nor does the supervisor give any order then. -/
theorem one_task_each (tokens : TokenSource) (carriesOut periodic : Bool) (p : Profile)
    (now : Int64) (period : Nat) (happenings : List Happening) :
    let w := (new tokens carriesOut p now (some (periodic, period))).undergoAll happenings
    ∃ d, w.eventLoop = some d
      ∧ d.listeners.map (·.1) = d.supervisor.listener.toList
      ∧ d.listeners.length = (if d.supervisor.isListening then 1 else 0)
      ∧ (w.timers.filter (·.use = .pass)).map (·.task) = d.supervisor.timer.toList
      ∧ (w.timers.filter (·.use = .pass)).length = (if d.supervisor.isPeriodic then 1 else 0)
      ∧ d.supervisor.isPeriodic = (d.supervisor.isListening && periodic)
      ∧ (d.supervisor.isListening = true → ∀ a : AccountId,
          w.handle (.signedIn a) = w ∧ d.supervisor.handle (.signedIn a) = (d.supervisor, [])) := by
  intro w
  have hkeptTasks : TasksKept periodic w.tasks :=
    tasksKept_run (tasksKept_new tokens carriesOut periodic p now period) happenings
  obtain ⟨d, hevents, hkept, htimers⟩ := TasksKept.exists_eventLoop hkeptTasks
  have hcount (slot : Option Nat) : slot.toList.length = if slot.isSome then 1 else 0 := by
    cases slot <;> rfl
  refine ⟨d, hevents, hkept.listeners, ?_, htimers, ?_, hkept.inStep.inStep, fun listening a => ?_⟩
  · rw [← List.length_map (·.1), hkept.listeners]
    exact hcount _
  · rw [← List.length_map (·.task)]
    exact (congrArg List.length htimers).trans (hcount _)
  · exact ⟨handle_signedIn_of_listening hevents hkept listening a,
      hkept.inStep.signedIn_of_listening listening a⟩

end World

end SessionSync
