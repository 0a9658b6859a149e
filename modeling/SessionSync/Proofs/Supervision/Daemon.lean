import Mathlib.Data.List.Perm.Basic
import SessionSync.Proofs.Pass.Removals
import SessionSync.Proofs.Supervision.Handling

/-!
# The running daemon

The lifecycle of the coordinator with the profile and with the timers that make passes: everything
that can have the agent told something. Signing in and out, the store, the tasks, the answers to
what was asked for, and the end of everything come in any order.

* `Daemon`, `Doing` — the state, and everything that can be done.
* `Daemon.moments` — what a doing comes to for the coordinator; `coordinator_undergo` says that
  this is all.
* `accounted_run` — a removal that is ordered begins, and one that begins ends, and there are no
  others.
* `eventLoop_shutdown` — the three steps in which everything is shut down.
-/

namespace SessionSync

/-- The timer that begins. -/
def Order.timer? : Order → Option Nat
  | .startTimer n => some n
  | _ => none

/-- What an order comes to for the coordinator at once. -/
def Order.event? : Order → Option CoordinatorEvent
  | .startPass => some .start
  | .abortPass => some .abort
  | _ => none

/-- The running daemon: the lifecycle of the coordinator, with the profile that its event loop
follows and the timers that its supervisor started. -/
structure Daemon extends Lifecycle where
  /-- The profile. -/
  profile : Profile
  /-- The timers that have not ended, also those that have been told to. -/
  timers : List Nat := []

/-- What can be done. -/
inductive Doing
  /-- An account signs in. -/
  | signIn (account : AccountId)
  /-- The primary account signs out. -/
  | signOut
  /-- The store announces something. -/
  | announce (e : TokenEvent)
  /-- Somebody puts an event into the queue, or a listening task does that has been told to end. -/
  | send (e : SupervisorEvent)
  /-- The supervisor handles an event on the spot. -/
  | handle (e : SupervisorEvent)
  /-- The loop begins. -/
  | startLoop
  /-- A listening task takes one thing out of its mailbox. -/
  | forward (task : Nat)
  /-- The loop takes one event out of the queue. -/
  | takeQueued
  /-- The loop takes one thing that the profile has announced. -/
  | takeAnnounced
  /-- A timer goes off. -/
  | tick (timer : Nat)
  /-- A timer that has been told to end does so. -/
  | endTimer (timer : Nat)
  /-- A removal that was ordered begins. -/
  | begin (place : Nat) (held : List AccountId)
  /-- Something happens to the coordinator: it is asked for something, a pass gets its turn, or an
  answer arrives. -/
  | happen (held : List AccountId) (e : CoordinatorEvent)
  /-- Everything is to be shut down: all tasks are told to end, and the pass in flight is given up.
  -/
  | cancel
  /-- The supervisor forgets its tasks, to wait for their end. -/
  | stop
  /-- The loop sees that it has been told to end. -/
  | endLoop

/-! ## What is on its way -/

/-- Things have moved on their way, and that is all: the same supervisor, the same listening tasks,
and a loop that runs only if it did. -/
structure EventLoop.Alike (d d' : EventLoop) : Prop where
  supervisor : d'.supervisor = d.supervisor
  tasks : d'.listeners.map (·.1) = d.listeners.map (·.1)
  loop : ∀ mail, d'.loop = .running mail → ∃ mail, d.loop = .running mail

namespace EventLoop

variable {d d' d'' : EventLoop}

theorem Alike.refl (d : EventLoop) : d.Alike d :=
  ⟨rfl, rfl, fun mail h => ⟨mail, h⟩⟩

theorem Alike.trans (h : d.Alike d') (k : d'.Alike d'') : d.Alike d'' where
  supervisor := k.supervisor.trans h.supervisor
  tasks := k.tasks.trans h.tasks
  loop mail hmail := by
    obtain ⟨mail', hmail'⟩ := k.loop mail hmail
    exact h.loop mail' hmail'

theorem Alike.listeners_eq_nil (h : d.Alike d') (none : d.listeners = []) : d'.listeners = [] := by
  have htasks := h.tasks
  rw [none] at htasks
  exact List.map_eq_nil_iff.1 htasks

theorem alike_announceToken (d : EventLoop) (e : TokenEvent) : d.Alike (d.announceToken e) :=
  ⟨rfl, by simp [announceToken, Function.comp_def], fun mail h => ⟨mail, h⟩⟩

theorem alike_announceProfile (d : EventLoop) (e : ProfileEvent) :
    d.Alike (d.announceProfile e) := by
  unfold announceProfile
  split
  · next mail hloop => exact ⟨rfl, rfl, fun _ _ => ⟨mail, hloop⟩⟩
  · exact .refl d

theorem alike_foldl_announceProfile (events : List ProfileEvent) (d : EventLoop) :
    d.Alike (events.foldl announceProfile d) := by
  induction events generalizing d with
  | nil => exact .refl d
  | cons e events ih => exact (d.alike_announceProfile e).trans (ih _)

theorem alike_send (d : EventLoop) (e : SupervisorEvent) : d.Alike (d.send e).1 := by
  unfold send
  split
  · exact .refl d
  · exact ⟨rfl, rfl, fun mail h => ⟨mail, h⟩⟩

theorem alike_forwardOne? (d : EventLoop) (task : Nat) :
    d.Alike ((d.forwardOne? task).getD d) := by
  have htasks : ∀ rest : Mailbox TokenEvent,
      (d.listeners.map fun l => if l.1 = task then (task, rest) else l).map (·.1) =
        d.listeners.map (·.1) := by
    intro rest
    rw [List.map_map]
    refine List.map_congr_left fun l _ => ?_
    by_cases hl : l.1 = task <;> simp [hl]
  unfold forwardOne?
  split
  · exact .refl d
  · next mail hfind =>
    cases mail.take with
    | none => exact .refl d
    | some r =>
      obtain ⟨x, rest⟩ := r
      have halike : d.Alike { d with
          listeners := d.listeners.map fun l => if l.1 = task then (task, rest) else l } :=
        ⟨rfl, htasks rest, fun mail h => ⟨mail, h⟩⟩
      cases x with
      | message e => exact halike.trans (alike_send _ _)
      | lagged n => exact halike

end EventLoop

namespace Daemon

variable (capacity : Nat) (p : Daemon)

/-! ## What is done -/

/-- The supervisor handles an event. -/
def handle (e : SupervisorEvent) : Daemon :=
  { p with
    toLifecycle := p.toLifecycle.handle capacity e
    timers := p.timers ++ (p.eventLoop.supervisor.handle e).2.filterMap (·.timer?) }

/-- The profile changes, and announces it. -/
def change (step : Profile × List ProfileEvent) : Daemon :=
  { p with profile := step.1, eventLoop := step.2.foldl .announceProfile p.eventLoop }

/-- What the coordinator sees. -/
def surroundings (held : List AccountId) : Surroundings :=
  ⟨held, p.profile.primary⟩

/-- Something happens to the coordinator. -/
def happen (held : List AccountId) (e : CoordinatorEvent) : Daemon :=
  { p with toLifecycle := p.toLifecycle.happen (p.surroundings held) e }

/-- The daemon after something has been done. What cannot be done at the moment changes nothing.
-/
def undergo : Doing → Daemon
  | .signIn a => p.change (p.profile.signIn a)
  | .signOut => p.change p.profile.signOut
  | .announce e => { p with eventLoop := p.eventLoop.announceToken e }
  | .send e => { p with eventLoop := (p.eventLoop.send e).1 }
  | .handle e => p.handle capacity e
  | .startLoop => { p with eventLoop := p.eventLoop.startLoop.1 }
  | .forward task => { p with eventLoop := (p.eventLoop.forwardOne? task).getD p.eventLoop }
  | .takeQueued =>
    match p.eventLoop.takeQueued? with
    | some (e, eventLoop) => { p with eventLoop }.handle capacity e
    | none => p
  | .takeAnnounced =>
    match p.eventLoop.takeAnnounced? with
    | some (.message e, eventLoop) => { p with eventLoop }.handle capacity (.ofProfile e)
    | some (.lagged _, eventLoop) => { p with eventLoop }
    | none => p
  | .tick n => if n ∈ p.timers then { p with coordinator := p.coordinator.start.1 } else p
  | .endTimer n =>
    if p.eventLoop.supervisor.closed ∨ p.eventLoop.supervisor.timer ≠ some n then
      { p with timers := p.timers.filter (· ≠ n) }
    else p
  | .begin place held =>
    match p.ordered[place]? with
    | some a => { p with ordered := p.ordered.eraseIdx place }.happen held (.removeAccount a)
    | none => p
  | .happen held e => p.happen held e
  | .cancel =>
    { p with
      eventLoop := { p.eventLoop with supervisor := { p.eventLoop.supervisor with closed := true } }
      coordinator := p.coordinator.abort }
  | .stop =>
    { p with
      eventLoop := p.eventLoop.supervisor.stopOrders.foldl (EventLoop.obey capacity)
        { p.eventLoop with supervisor := p.eventLoop.supervisor.shutdown.1 } }
  | .endLoop =>
    match p.eventLoop.loop with
    | .running _ =>
      if p.eventLoop.supervisor.closed then
        { p with eventLoop := { p.eventLoop with queue := [], loop := .ended } }
      else p
    | _ => p

/-- The daemon after things have been done one after the other. -/
def run (doings : List Doing) : Daemon :=
  doings.foldl (undergo capacity) p

/-- The daemon of a new supervisor. Something may have happened to the coordinator before. -/
def opened (periodic : Bool) (first : Profile) (early : List Moment) : Daemon :=
  let (eventLoop, orders) := EventLoop.new capacity periodic first
  { toLifecycle :=
      orders.foldl Lifecycle.obey { eventLoop, coordinator := ({} : Coordinator).run early }
    profile := first
    timers := orders.filterMap (·.timer?) }

/-! ## What is done for the supervisor and for the coordinator -/

/-- The event that the supervisor handles. -/
def handles? : Doing → Option SupervisorEvent
  | .handle e => some e
  | .takeQueued => p.eventLoop.takeQueued?.map (·.1)
  | .takeAnnounced =>
    match p.eventLoop.takeAnnounced? with
    | some (.message e, _) => some (.ofProfile e)
    | _ => none
  | _ => none

/-- The orders that the supervisor gives. -/
def orders (d : Doing) : List Order :=
  (p.handles? d).elim [] fun e => (p.eventLoop.supervisor.handle e).2

/-- What happens to the coordinator. -/
def moments (d : Doing) : List Moment :=
  match d with
  | .tick n => if n ∈ p.timers then [⟨p.surroundings [], .start⟩] else []
  | .begin place held =>
    (p.ordered[place]?.map fun a => ⟨p.surroundings held, .removeAccount a⟩).toList
  | .happen held e => [⟨p.surroundings held, e⟩]
  | .cancel => [⟨p.surroundings [], .abort⟩]
  | d => ((p.orders d).filterMap (·.event?)).map fun e => ⟨p.surroundings [], e⟩

end Daemon

/-- The removal that is asked for directly. -/
def Doing.asked : Doing → List AccountId
  | .happen _ (.removeAccount a) => [a]
  | _ => []

namespace Daemon

/-- The removals that are asked for or ordered. -/
def called (p : Daemon) (d : Doing) : List AccountId :=
  d.asked ++ (p.orders d).filterMap (·.removal?)

/-- What happens to the coordinator in a run. -/
def momentsIn (capacity : Nat) (p : Daemon) : List Doing → List Moment
  | [] => []
  | d :: later => p.moments d ++ (p.undergo capacity d).momentsIn capacity later

/-- The removals that are asked for or ordered in a run. -/
def calledIn (capacity : Nat) (p : Daemon) : List Doing → List AccountId
  | [] => []
  | d :: later => p.called d ++ (p.undergo capacity d).calledIn capacity later

variable {capacity : Nat} {p : Daemon} {d : Doing} {e : SupervisorEvent}

/-! ## Orders -/

theorem coordinator_foldl_obey (orders : List Order) (o : Lifecycle) (s : Surroundings) :
    (orders.foldl Lifecycle.obey o).coordinator =
      o.coordinator.run ((orders.filterMap (·.event?)).map fun e => ⟨s, e⟩) := by
  induction orders generalizing o with
  | nil => rfl
  | cons x orders ih =>
    rw [List.foldl_cons, ih]
    cases x <;> rfl

/-- Orders have the agent told nothing at once. -/
theorem toldIn_orders (orders : List Order) (c : Coordinator) (s : Surroundings) :
    c.toldIn ((orders.filterMap (·.event?)).map fun e => ⟨s, e⟩) = [] := by
  induction orders generalizing c with
  | nil => rfl
  | cons x orders ih =>
    cases x with
    | startPass | abortPass => exact ih _
    | listen | stopListening | startTimer | stopTimer | removeAccount => exact ih c

theorem told_handle (p : Daemon) (e : SupervisorEvent) : (p.handle capacity e).told = p.told :=
  (Lifecycle.foldl_obey _ _).2.2.1

theorem ordered_handle (p : Daemon) (e : SupervisorEvent) :
    (p.handle capacity e).ordered =
      p.ordered ++ (p.eventLoop.supervisor.handle e).2.filterMap (·.removal?) :=
  (Lifecycle.foldl_obey _ _).2.2.2

theorem eventLoop_handle (p : Daemon) (e : SupervisorEvent) :
    (p.handle capacity e).eventLoop = (p.eventLoop.handle capacity e).1 :=
  (Lifecycle.foldl_obey _ _).1

theorem supervisor_handle (p : Daemon) (e : SupervisorEvent) :
    (p.handle capacity e).eventLoop.supervisor = (p.eventLoop.supervisor.handle e).1 := by
  rw [eventLoop_handle, EventLoop.handle_fst]

theorem loop_handle (p : Daemon) (e : SupervisorEvent) :
    (p.handle capacity e).eventLoop.loop = p.eventLoop.loop := by
  rw [eventLoop_handle, EventLoop.handle_fst]

theorem tasks_handle (p : Daemon) (e : SupervisorEvent) :
    (p.handle capacity e).eventLoop.listeners.map (·.1) =
      (p.eventLoop.supervisor.handle e).2.foldl Supervisor.onListeners
        (p.eventLoop.listeners.map (·.1)) := by
  rw [eventLoop_handle]
  exact EventLoop.tasks_foldl_obey _ _

/-! ## Events that are handled -/

/-- An event that is handled was on the spot, in the queue, or announced by the profile. -/
theorem undergo_of_handles (capacity : Nat) (h : p.handles? d = some e) :
    ∃ eventLoop : EventLoop, p.undergo capacity d = { p with eventLoop }.handle capacity e
      ∧ p.eventLoop.Alike eventLoop
      ∧ p.moments d = ((p.orders d).filterMap (·.event?)).map (⟨p.surroundings [], ·⟩)
      ∧ d.asked = [] := by
  cases d with
  | handle e' =>
    cases h
    exact ⟨p.eventLoop, rfl, .refl _, rfl, rfl⟩
  | takeQueued =>
    obtain ⟨⟨e', eventLoop⟩, htake, rfl⟩ := Option.map_eq_some_iff.1 h
    obtain ⟨rest, -, rfl⟩ := EventLoop.takeQueued?_eq_some htake
    exact ⟨{ p.eventLoop with queue := rest }, by simp only [undergo, htake],
      ⟨rfl, rfl, fun mail h => ⟨mail, h⟩⟩, rfl, rfl⟩
  | takeAnnounced =>
    simp only [handles?] at h
    split at h
    · next e' eventLoop htake =>
      cases h
      cases hloop : p.eventLoop.loop with
      | running bell =>
        obtain ⟨rest, -, rfl⟩ := EventLoop.takeAnnounced?_eq_some hloop htake
        exact ⟨{ p.eventLoop with loop := .running rest }, by simp only [undergo, htake],
          ⟨rfl, rfl, fun _ _ => ⟨bell, hloop⟩⟩, rfl, rfl⟩
      | notStarted | ended => simp [EventLoop.takeAnnounced?, hloop] at htake
    · cases h
  | _ => cases h

theorem orders_of_handles (h : p.handles? d = some e) :
    p.orders d = (p.eventLoop.supervisor.handle e).2 := by
  rw [orders, h]
  rfl

/-- Nothing is ordered unless an event is handled. -/
theorem orders_of_quiet (quiet : p.handles? d = none) : p.orders d = [] := by
  rw [orders, quiet]
  rfl

/-- The loop may take word of lost announcements without handling anything. -/
theorem takeAnnounced_of_quiet (capacity : Nat)
    (quiet : p.handles? .takeAnnounced = none) :
    ∃ eventLoop : EventLoop,
      p.undergo capacity .takeAnnounced = { p with eventLoop } ∧ p.eventLoop.Alike eventLoop := by
  cases htake : p.eventLoop.takeAnnounced? with
  | none => exact ⟨p.eventLoop, by simp only [undergo, htake], .refl _⟩
  | some r =>
    obtain ⟨x, eventLoop⟩ := r
    cases x with
    | message e => simp [handles?, htake] at quiet
    | lagged n =>
      cases hloop : p.eventLoop.loop with
      | running bell =>
        obtain ⟨rest, -, rfl⟩ := EventLoop.takeAnnounced?_eq_some hloop htake
        exact ⟨{ p.eventLoop with loop := .running rest }, by simp only [undergo, htake],
          ⟨rfl, rfl, fun _ _ => ⟨bell, hloop⟩⟩⟩
      | notStarted | ended => simp [EventLoop.takeAnnounced?, hloop] at htake

theorem takeQueued_of_quiet (quiet : p.handles? .takeQueued = none) :
    p.undergo capacity .takeQueued = p := by
  have htake : p.eventLoop.takeQueued? = none := Option.map_eq_none_iff.1 quiet
  simp only [undergo, htake]

/-! ## Everything that can be done -/

/-- What a doing can come to. -/
inductive Course (capacity : Nat) (p : Daemon) : Doing → Daemon → Prop
  /-- The supervisor handles an event. -/
  | handles {d : Doing} {e : SupervisorEvent} {eventLoop : EventLoop}
      (event : p.handles? d = some e) (alike : p.eventLoop.Alike eventLoop)
      (moments : p.moments d =
        ((p.orders d).filterMap (·.event?)).map (⟨p.surroundings [], ·⟩))
      (asked : d.asked = []) : Course capacity p d ({ p with eventLoop }.handle capacity e)
  /-- A timer goes off. -/
  | ticks {n : Nat} (running : n ∈ p.timers) :
      Course capacity p (.tick n) { p with coordinator := p.coordinator.start.1 }
  /-- A removal that was ordered begins. -/
  | begins {place : Nat} {held : List AccountId} {a : AccountId}
      (ordered : p.ordered[place]? = some a) :
      Course capacity p (.begin place held)
        ({ p with ordered := p.ordered.eraseIdx place }.happen held (.removeAccount a))
  /-- Something happens to the coordinator. -/
  | happens {held : List AccountId} {e : CoordinatorEvent} :
      Course capacity p (.happen held e) (p.happen held e)
  /-- Everything is to be shut down. -/
  | cancels :
      Course capacity p .cancel
        { p with
          eventLoop :=
            { p.eventLoop with supervisor := { p.eventLoop.supervisor with closed := true } }
          coordinator := p.coordinator.abort }
  /-- The supervisor forgets its tasks. -/
  | stops :
      Course capacity p .stop
        { p with
          eventLoop := p.eventLoop.supervisor.stopOrders.foldl (EventLoop.obey capacity)
            { p.eventLoop with supervisor := p.eventLoop.supervisor.shutdown.1 } }
  /-- The loop begins. -/
  | startsLoop : Course capacity p .startLoop { p with eventLoop := p.eventLoop.startLoop.1 }
  /-- A timer ends. -/
  | endsTimer {n : Nat} :
      Course capacity p (.endTimer n) { p with timers := p.timers.filter (· ≠ n) }
  /-- Things move on their way, and somebody may sign in or out. -/
  | moves {d : Doing} {eventLoop : EventLoop} {profile : Profile} (quiet : p.handles? d = none)
      (moments : p.moments d = []) (asked : d.asked = []) (alike : p.eventLoop.Alike eventLoop)
      (signedOut : (∀ a, d ≠ .signIn a) → p.profile.primary = none → profile.primary = none) :
      Course capacity p d { p with eventLoop, profile }

/-- Nothing happens at all. -/
theorem Course.nothing (quiet : p.handles? d = none) (moments : p.moments d = [])
    (asked : d.asked = []) : Course capacity p d p :=
  .moves quiet moments asked (.refl p.eventLoop) fun _ h => h

/-- A doing comes to nothing that is not listed in `Course`. -/
theorem course_undergo (capacity : Nat) (p : Daemon) (d : Doing) :
    Course capacity p d (p.undergo capacity d) := by
  cases hevent : p.handles? d with
  | some e =>
    obtain ⟨eventLoop, hundergo, halike, hmoments, hasked⟩ :=
      undergo_of_handles capacity hevent
    rw [hundergo]
    exact .handles hevent halike hmoments hasked
  | none =>
    have horders := orders_of_quiet hevent
    cases d with
    | handle e => cases hevent
    | takeQueued =>
      rw [takeQueued_of_quiet hevent]
      exact .nothing hevent (by simp [moments, horders]) rfl
    | takeAnnounced =>
      obtain ⟨eventLoop, hundergo, halike⟩ := takeAnnounced_of_quiet capacity hevent
      rw [hundergo]
      exact .moves hevent (by simp [moments, horders]) rfl halike fun _ h => h
    | tick n =>
      simp only [undergo]
      split
      · next running => exact .ticks running
      · next ended => exact .nothing hevent (by simp [moments, ended]) rfl
    | begin place held =>
      simp only [undergo]
      cases hplace : p.ordered[place]? with
      | some a => exact .begins hplace
      | none => exact .nothing hevent (by simp [moments, hplace]) rfl
    | happen held e => exact .happens
    | cancel => exact .cancels
    | stop => exact .stops
    | startLoop => exact .startsLoop
    | endTimer n =>
      simp only [undergo]
      split
      · exact .endsTimer
      · exact .nothing hevent (by simp [moments, horders]) rfl
    | endLoop =>
      simp only [undergo]
      split
      · split
        · exact .moves hevent (by simp [moments, horders]) rfl ⟨rfl, rfl, nofun⟩ fun _ h => h
        · exact .nothing hevent (by simp [moments, horders]) rfl
      · exact .nothing hevent (by simp [moments, horders]) rfl
    | signIn a =>
      exact .moves hevent (by simp [moments, horders]) rfl
        (EventLoop.alike_foldl_announceProfile _ _) fun other => absurd rfl (other a)
    | signOut =>
      exact .moves hevent (by simp [moments, horders]) rfl
        (EventLoop.alike_foldl_announceProfile _ _) fun _ _ => rfl
    | announce e =>
      exact .moves hevent (by simp [moments, horders]) rfl (p.eventLoop.alike_announceToken e)
        fun _ h => h
    | send e =>
      exact .moves hevent (by simp [moments, horders]) rfl (p.eventLoop.alike_send e) fun _ h => h
    | forward task =>
      exact .moves hevent (by simp [moments, horders]) rfl (p.eventLoop.alike_forwardOne? task)
        fun _ h => h

/-- All that a doing comes to for the coordinator is in its moments, and the agent is told what
comes of them. -/
theorem coordinator_undergo (capacity : Nat) (p : Daemon) (d : Doing) :
    (p.undergo capacity d).coordinator = p.coordinator.run (p.moments d)
      ∧ (p.undergo capacity d).told = p.told ++ p.coordinator.toldIn (p.moments d) := by
  have course := course_undergo capacity p d
  generalize p.undergo capacity d = q at course
  cases course with
  | handles event alike moments =>
    rw [moments, toldIn_orders, List.append_nil, told_handle, orders_of_handles event,
      ← alike.supervisor]
    exact ⟨coordinator_foldl_obey _ _ _, rfl⟩
  | ticks running =>
    rw [moments, if_pos running]
    exact ⟨rfl, (List.append_nil _).symm⟩
  | begins ordered =>
    rw [moments, ordered]
    exact ⟨rfl, congrArg _ (List.append_nil _).symm⟩
  | happens => exact ⟨rfl, congrArg _ (List.append_nil _).symm⟩
  | cancels | stops | startsLoop | endsTimer => exact ⟨rfl, (List.append_nil _).symm⟩
  | moves quiet moments =>
    rw [moments]
    exact ⟨rfl, (List.append_nil _).symm⟩

/-- A removal that is ordered begins or is still ordered. -/
theorem ordered_undergo (capacity : Nat) (p : Daemon) (d : Doing) :
    ((p.coordinator.toldIn (p.moments d)).filterMap (·.removal?) ++
      (p.undergo capacity d).ordered).Perm (p.ordered ++ p.called d) := by
  have course := course_undergo capacity p d
  generalize p.undergo capacity d = q at course
  unfold called
  cases course with
  | handles event alike moments asked =>
    rw [moments, toldIn_orders, asked, ordered_handle, orders_of_handles event, ← alike.supervisor]
    exact List.Perm.refl _
  | ticks running =>
    rw [moments, if_pos running, orders_of_quiet rfl]
    exact List.Perm.of_eq (List.append_nil _).symm
  | @begins place held a ordered =>
    obtain ⟨hplace, rfl⟩ := List.getElem?_eq_some_iff.1 ordered
    rw [moments, ordered, orders_of_quiet rfl]
    simpa [Coordinator.toldIn, Coordinator.react, Coordinator.removal?_step, Doing.asked, happen,
      Lifecycle.happen] using List.getElem_cons_eraseIdx_perm hplace
  | @happens held e =>
    have hbegun : (p.coordinator.toldIn (p.moments (.happen held e))).filterMap (·.removal?) =
        (Doing.happen held e).asked := by
      simp only [moments, Coordinator.toldIn, List.append_nil, Coordinator.react,
        Coordinator.removal?_step]
      cases e <;> rfl
    rw [hbegun, orders_of_quiet rfl, List.filterMap_nil, List.append_nil]
    exact List.perm_append_comm
  | cancels | stops | startsLoop | endsTimer =>
    rw [orders_of_quiet rfl]
    exact List.Perm.of_eq (List.append_nil _).symm
  | moves quiet moments asked =>
    rw [moments, asked, orders_of_quiet quiet]
    exact List.Perm.of_eq (List.append_nil _).symm

/-! ## Runs -/

theorem coordinator_run (capacity : Nat) (p : Daemon) (doings : List Doing) :
    (p.run capacity doings).coordinator = p.coordinator.run (p.momentsIn capacity doings)
      ∧ (p.run capacity doings).told =
        p.told ++ p.coordinator.toldIn (p.momentsIn capacity doings) := by
  induction doings generalizing p with
  | nil => exact ⟨rfl, (List.append_nil _).symm⟩
  | cons d doings ih =>
    obtain ⟨hcoordinator, htold⟩ := coordinator_undergo capacity p d
    obtain ⟨hrun, hlater⟩ := ih (p.undergo capacity d)
    rw [momentsIn, Coordinator.run_append, Coordinator.toldIn_append, ← hcoordinator,
      ← List.append_assoc, ← htold]
    exact ⟨hrun, hlater⟩

theorem ordered_run (capacity : Nat) (p : Daemon) (doings : List Doing) :
    ((p.coordinator.toldIn (p.momentsIn capacity doings)).filterMap (·.removal?) ++
      (p.run capacity doings).ordered).Perm (p.ordered ++ p.calledIn capacity doings) := by
  induction doings generalizing p with
  | nil => exact List.Perm.of_eq (List.append_nil _).symm
  | cons d doings ih =>
    rw [momentsIn, Coordinator.toldIn_append, List.filterMap_append,
      ← (coordinator_undergo capacity p d).1, calledIn]
    exact Coordinator.balance_trans (ordered_undergo capacity p d) (ih (p.undergo capacity d))

/-- What the agent is told from one state to a later one, as far as removals are concerned: removals
begin that were ordered or are called for in between, and removals end that were under way or have
begun in between. None is forgotten, and there are no others. -/
structure Accounted (p q : Daemon) (called : List AccountId) (new : List Instruction) :
    Prop where
  told : q.told = p.told ++ new
  begun : (new.filterMap (·.removal?) ++ q.ordered).Perm (p.ordered ++ called)
  ended : (new.filterMap (·.removed?) ++ q.coordinator.removing).Perm
    (p.coordinator.removing ++ new.filterMap (·.removal?))

theorem accounted_run (capacity : Nat) (h : p.coordinator.Coherent) (doings : List Doing) :
    Accounted p (p.run capacity doings) (p.calledIn capacity doings)
      (p.coordinator.toldIn (p.momentsIn capacity doings)) where
  told := (coordinator_run capacity p doings).2
  begun := ordered_run capacity p doings
  ended := by
    rw [(coordinator_run capacity p doings).1]
    exact Coordinator.balances_run h _

theorem coherent_run (capacity : Nat) (h : p.coordinator.Coherent) (doings : List Doing) :
    (p.run capacity doings).coordinator.Coherent := by
  rw [(coordinator_run capacity p doings).1]
  exact h.run _

theorem coherent_opened (capacity : Nat) (periodic : Bool) (first : Profile)
    (early : List Moment) : (opened capacity periodic first early).coordinator.Coherent := by
  show ((EventLoop.new capacity periodic first).2.foldl Lifecycle.obey _).coordinator.Coherent
  rw [coordinator_foldl_obey _ _ ⟨[], none⟩]
  exact (Coordinator.coherent_run early).run _

/-! ## The steps of the end -/

/-- With nothing in between, the steps of the end come to what shutting an event loop down at once
does. -/
theorem eventLoop_shutdown (capacity : Nat) (p : Daemon) :
    (p.run capacity [.cancel, .stop, .endLoop]).eventLoop = (p.eventLoop.shutdown capacity).1
      ∧ (p.run capacity [.cancel, .stop, .endLoop]).coordinator = p.coordinator.abort := by
  let stopped := (p.undergo capacity .cancel).undergo capacity .stop
  have hclosed : stopped.eventLoop.supervisor.closed = true := by
    show (p.eventLoop.supervisor.stopOrders.foldl (EventLoop.obey capacity) _).supervisor.closed =
      true
    rw [EventLoop.foldl_obey_eq]
    rfl
  have hshutdown : p.eventLoop.shutdown capacity =
      match stopped.eventLoop.loop with
      | .running _ =>
        ({ stopped.eventLoop with queue := [], loop := .ended }, p.eventLoop.supervisor.shutdown.2)
      | _ => (stopped.eventLoop, p.eventLoop.supervisor.shutdown.2) := rfl
  show (stopped.undergo capacity .endLoop).eventLoop = _
    ∧ (stopped.undergo capacity .endLoop).coordinator = _
  rw [hshutdown]
  simp only [undergo, hclosed, if_true]
  cases stopped.eventLoop.loop <;> exact ⟨rfl, rfl⟩

end Daemon

end SessionSync
