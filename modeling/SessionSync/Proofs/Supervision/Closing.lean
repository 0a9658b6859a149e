import SessionSync.Proofs.Supervision.Daemon

/-!
# The end of the tasks

Shutting everything down tells all tasks to end and waits for some of them. This file says what can
still happen then: no task begins any more, and what was on its way is not taken up.

* `Supervisor.Houses` — the supervisor keeps every listening task that runs; so the listening tasks
  end with the orders that it gives.
* `Closing` — no task begins any more; `Closing.undergo` is what a doing preserves.
* `ShutDown`, `Over` — everything has been shut down, and nothing that was on its way is taken up.
* `Silent.run` — with nothing under way either, the agent is told nothing until something new is
  asked for.
-/

namespace SessionSync

namespace Supervisor

variable {s : Supervisor} {e : SupervisorEvent}

/-- Signing out ends the tasks and gives up the pass in flight; it orders nothing else. -/
theorem filterMap_signedOut {α : Type} {f : Order → Option α}
    (listening : ∀ n, f (.stopListening n) = none) (timer : ∀ n, f (.stopTimer n) = none) :
    (s.handle .signedOut).2.filterMap f = (f .abortPass).toList := by
  show (s.stopOrders ++ [Order.abortPass]).filterMap f = _
  unfold stopOrders
  cases s.listener <;> cases s.timer <;> cases hf : f .abortPass <;> simp [listening, timer, hf]

/-- A supervisor that does not listen to the store orders no removal and goes on not to listen,
until it handles that somebody has signed in. -/
theorem handle_of_deaf (deaf : s.listener = none) (away : ∀ a, e ≠ .signedIn a) :
    (s.handle e).1.listener = none ∧ (s.handle e).2.filterMap (·.removal?) = [] := by
  cases e with
  | signedIn a => exact absurd rfl (away a)
  | signedOut => exact ⟨rfl, filterMap_signedOut (fun _ => rfl) fun _ => rfl⟩
  | available a => exact ⟨deaf, rfl⟩
  | loaded => simp [handle, isListening, deaf]
  | revoked a => simp [handle, isListening, deaf]

/-- When everything is being shut down, no task begins any more. -/
theorem handle_of_closed (closed : s.closed = true) (e : SupervisorEvent) :
    (s.handle e).1.closed = true ∧ (∀ n, .listen n ∉ (s.handle e).2)
      ∧ (s.handle e).2.filterMap (·.timer?) = [] := by
  cases e with
  | available a => exact ⟨closed, fun n => List.not_mem_nil, rfl⟩
  | signedOut =>
    exact ⟨closed, by simp [handle, signedOut, stopOrders],
      filterMap_signedOut (fun _ => rfl) fun _ => rfl⟩
  | loaded | revoked a =>
    simp only [handle]
    split <;> simp [closed, Order.timer?]
  | signedIn a =>
    simp only [handle, signedIn]
    cases hlistener : s.listener <;> cases htimer : s.timer <;>
      cases henabled : s.periodicEnabled <;>
      simp [isListening, isPeriodic, listen, startTimer, hlistener, htimer, henabled, closed, begin]

theorem foldl_onListeners_nil {orders : List Order} (h : ∀ n, .listen n ∉ orders) :
    orders.foldl onListeners [] = [] := by
  induction orders with
  | nil => rfl
  | cons x orders ih =>
    have hx : onListeners [] x = [] := by
      cases x with
      | listen n => exact absurd List.mem_cons_self (h n)
      | _ => rfl
    rw [List.foldl_cons, hx]
    exact ih fun n hn => h n (List.mem_cons_of_mem x hn)

/-- A listening task runs only if the supervisor keeps it. -/
def Houses (s : Supervisor) (tasks : List Nat) : Prop :=
  ∀ n ∈ tasks, s.listener = some n

theorem Houses.eq_nil {tasks : List Nat} (h : s.Houses tasks) (deaf : s.listener = none) :
    tasks = [] := by
  refine List.eq_nil_iff_forall_not_mem.2 fun n hn => ?_
  have hlistener := h n hn
  rw [deaf] at hlistener
  cases hlistener

/-- The orders that end the tasks end every listening task that the supervisor keeps. -/
theorem Houses.foldl_stopOrders {tasks : List Nat} (h : s.Houses tasks) :
    s.stopOrders.foldl onListeners tasks = [] := by
  have hend : ∀ tasks : List Nat, (s.timer.map Order.stopTimer).toList.foldl onListeners tasks =
      tasks := by
    intro tasks
    cases s.timer <;> rfl
  unfold stopOrders
  rw [List.foldl_append, hend]
  cases hlistener : s.listener with
  | none => exact h.eq_nil hlistener
  | some k =>
    show tasks.filter (· ≠ k) = []
    rw [List.filter_eq_nil_iff]
    intro n hn
    obtain rfl : k = n := Option.some.inj (hlistener.symm.trans (h n hn))
    simp

theorem Houses.handle {tasks : List Nat} (h : s.Houses tasks) (e : SupervisorEvent) :
    (s.handle e).1.Houses ((s.handle e).2.foldl onListeners tasks) := by
  cases e with
  | available a => exact h
  | loaded | revoked a =>
    simp only [Supervisor.handle]
    split <;> exact h
  | signedOut =>
    show Houses _ ((s.stopOrders ++ [Order.abortPass]).foldl onListeners tasks)
    rw [List.foldl_append, h.foldl_stopOrders]
    exact fun n hn => absurd hn List.not_mem_nil
  | signedIn a =>
    simp only [Supervisor.handle, signedIn]
    cases hlistener : s.listener with
    | none =>
      obtain rfl := h.eq_nil hlistener
      cases htimer : s.timer <;> cases henabled : s.periodicEnabled <;>
        cases hclosed : s.closed <;>
        simp [isListening, isPeriodic, listen, startTimer, begin, hlistener, htimer, henabled,
          hclosed, onListeners, Houses]
    | some k =>
      cases htimer : s.timer <;> cases henabled : s.periodicEnabled <;>
        cases hclosed : s.closed <;>
        simpa [isListening, isPeriodic, listen, startTimer, begin, hlistener, htimer, henabled,
          hclosed, onListeners, Houses] using h

end Supervisor

/-- While no task begins to listen, none listens if none did. -/
theorem EventLoop.listeners_foldl_obey {capacity : Nat} {d : EventLoop} {orders : List Order}
    (none : d.listeners = []) (h : ∀ n, .listen n ∉ orders) :
    (orders.foldl (obey capacity) d).listeners = [] := by
  have htasks : (orders.foldl (obey capacity) d).listeners.map (·.1) = _ :=
    tasks_foldl_obey orders d
  rw [none, List.map_nil, Supervisor.foldl_onListeners_nil h] at htasks
  exact List.map_eq_nil_iff.1 htasks

namespace Daemon

variable {capacity : Nat} {p q : Daemon} {d : Doing}

/-! ## Everything is shut down -/

/-- A listening task runs only if the supervisor keeps it. -/
def Housed (p : Daemon) : Prop :=
  p.eventLoop.supervisor.Houses (p.eventLoop.listeners.map (·.1))

theorem Housed.undergo (capacity : Nat) (h : p.Housed) (d : Doing) :
    (p.undergo capacity d).Housed := by
  have course := course_undergo capacity p d
  generalize p.undergo capacity d = q at course
  unfold Housed at h ⊢
  cases course with
  | handles event alike =>
    rw [supervisor_handle, tasks_handle]
    refine Supervisor.Houses.handle ?_ _
    show Supervisor.Houses _ _
    rw [alike.supervisor, alike.tasks]
    exact h
  | ticks | begins | happens | endsTimer | cancels => exact h
  | stops =>
    rw [EventLoop.tasks_foldl_obey]
    dsimp only
    rw [h.foldl_stopOrders]
    exact fun n hn => absurd hn List.not_mem_nil
  | startsLoop =>
    unfold EventLoop.startLoop
    split <;> exact h
  | moves quiet moments asked alike =>
    rw [alike.supervisor, alike.tasks]
    exact h

theorem Housed.run (capacity : Nat) (h : p.Housed) (doings : List Doing) :
    (p.run capacity doings).Housed := by
  induction doings generalizing p with
  | nil => exact h
  | cons d doings ih => exact ih (h.undergo capacity d)

theorem housed_opened (capacity : Nat) (periodic : Bool) (first : Profile) (early : List Moment) :
    (opened capacity periodic first early).Housed := by
  have hfresh : Supervisor.Houses { periodicEnabled := periodic } [] :=
    fun n hn => absurd hn List.not_mem_nil
  have hnew : (Supervisor.new periodic first).1.Houses
      ((Supervisor.new periodic first).2.foldl Supervisor.onListeners []) := by
    unfold Supervisor.new
    cases first.primary with
    | none => exact hfresh
    | some a => exact hfresh.handle (.signedIn a)
  have hevents : (opened capacity periodic first early).eventLoop =
      (EventLoop.new capacity periodic first).1 :=
    (Lifecycle.foldl_obey _ _).1
  unfold Housed
  rw [hevents, EventLoop.new_fst]
  show Supervisor.Houses _ ((EventLoop.new capacity periodic first).1.listeners.map (·.1))
  rw [show (EventLoop.new capacity periodic first).1.listeners.map (·.1) = _ from
    EventLoop.tasks_foldl_obey _ _]
  exact hnew

/-- Everything is being shut down: no task begins any more. -/
def Closing (p : Daemon) : Prop :=
  p.eventLoop.supervisor.closed = true

theorem Closing.undergo (capacity : Nat) (h : p.Closing) (d : Doing) :
    (p.undergo capacity d).Closing
      ∧ (∀ n ∈ (p.undergo capacity d).timers, n ∈ p.timers)
      ∧ (p.eventLoop.listeners = [] → (p.undergo capacity d).eventLoop.listeners = [])
      ∧ (d ≠ .startLoop → (∀ mail, p.eventLoop.loop ≠ .running mail) →
          ∀ mail, (p.undergo capacity d).eventLoop.loop ≠ .running mail) := by
  have course := course_undergo capacity p d
  generalize p.undergo capacity d = q at course
  unfold Closing at h ⊢
  cases course with
  | @handles d e eventLoop event alike =>
    obtain ⟨hclosed, hlisten, htimer⟩ :=
      Supervisor.handle_of_closed (alike.supervisor ▸ h : eventLoop.supervisor.closed = true) e
    refine ⟨by rw [supervisor_handle]; exact hclosed, fun n hn => ?_, fun hnil => ?_,
      fun _ ended mail hmail => ?_⟩
    · rcases List.mem_append.1 hn with hn | hn
      · exact hn
      · rw [htimer] at hn
        cases hn
    · rw [eventLoop_handle]
      exact EventLoop.listeners_foldl_obey (alike.listeners_eq_nil hnil) hlisten
    · rw [loop_handle] at hmail
      obtain ⟨mail', hmail'⟩ := alike.loop mail hmail
      exact ended mail' hmail'
  | ticks | begins | happens => exact ⟨h, fun n hn => hn, id, fun _ ended => ended⟩
  | endsTimer => exact ⟨h, fun n hn => (List.mem_filter.1 hn).1, id, fun _ ended => ended⟩
  | cancels => exact ⟨rfl, fun n hn => hn, id, fun _ ended => ended⟩
  | stops =>
    refine ⟨by rw [EventLoop.foldl_obey_eq]; rfl, fun n hn => hn, fun hnil => ?_,
      fun _ ended => by rw [EventLoop.foldl_obey_eq]; exact ended⟩
    exact EventLoop.listeners_foldl_obey hnil (by simp [Supervisor.stopOrders])
  | startsLoop =>
    unfold EventLoop.startLoop
    split
    · exact ⟨h, fun n hn => hn, id, fun other => absurd rfl other⟩
    · exact ⟨h, fun n hn => hn, id, fun other => absurd rfl other⟩
  | moves quiet moments asked alike =>
    refine ⟨by rw [alike.supervisor]; exact h, fun n hn => hn, alike.listeners_eq_nil,
      fun _ ended mail hmail => ?_⟩
    obtain ⟨mail', hmail'⟩ := alike.loop mail hmail
    exact ended mail' hmail'

/-- Everything has been shut down: that was begun at `p`, and at `q` the loop does not run any more
and the timer that was to be waited for has ended. -/
def ShutDown (capacity : Nat) (p q : Daemon) : Prop :=
  ∃ between waiting : List Doing,
    let stopping := (p.undergo capacity .cancel).run capacity between
    q = (stopping.undergo capacity .stop).run capacity waiting
      ∧ (∀ n, stopping.eventLoop.supervisor.timer = some n → n ∉ q.timers)
      ∧ ∀ mail, q.eventLoop.loop ≠ .running mail

/-- No task listens and the loop does not run, and no task begins any more. -/
structure Over (p : Daemon) : Prop where
  closing : p.Closing
  listeners : p.eventLoop.listeners = []
  loop : ∀ mail, p.eventLoop.loop ≠ .running mail

theorem Closing.run (capacity : Nat) (h : p.Closing) (doings : List Doing) :
    (p.run capacity doings).Closing
      ∧ (p.eventLoop.listeners = [] → (p.run capacity doings).eventLoop.listeners = []) := by
  induction doings generalizing p with
  | nil => exact ⟨h, id⟩
  | cons d doings ih =>
    obtain ⟨hclosing, -, hlisteners, -⟩ := h.undergo capacity d
    obtain ⟨hrun, hlater⟩ := ih hclosing
    exact ⟨hrun, fun none => hlater (hlisteners none)⟩

/-- Once everything has been shut down it is over. -/
theorem ShutDown.over (h : p.ShutDown capacity q) (housed : p.Housed) : q.Over := by
  obtain ⟨between, waiting, rfl, -, hloop⟩ := h
  have hcancelled : (p.undergo capacity .cancel).Closing := rfl
  have hstopping := (hcancelled.run capacity between).1
  have hhoused := (housed.undergo capacity .cancel).run capacity between
  generalize (p.undergo capacity .cancel).run capacity between = stopping at *
  have hnone : (stopping.undergo capacity .stop).eventLoop.listeners = [] := by
    have htasks : (stopping.undergo capacity .stop).eventLoop.listeners.map (·.1) = _ :=
      EventLoop.tasks_foldl_obey stopping.eventLoop.supervisor.stopOrders _
    rw [hhoused.foldl_stopOrders] at htasks
    exact List.map_eq_nil_iff.1 htasks
  obtain ⟨hclosing, hlisteners⟩ :=
    (hstopping.undergo capacity .stop).1.run capacity waiting
  exact ⟨hclosing, hlisteners hnone, hloop⟩

theorem ShutDown.coherent (h : p.ShutDown capacity q) (coherent : p.coordinator.Coherent) :
    q.coordinator.Coherent := by
  obtain ⟨between, waiting, rfl, -, -⟩ := h
  have hcancelled := coherent_run capacity coherent [.cancel]
  have hstopping := coherent_run capacity hcancelled between
  exact coherent_run capacity (coherent_run capacity hstopping [.stop]) waiting

theorem Over.undergo (capacity : Nat) (h : p.Over) (other : d ≠ .startLoop) :
    (p.undergo capacity d).Over := by
  obtain ⟨hclosing, -, hlisteners, hloop⟩ := h.closing.undergo capacity d
  exact ⟨hclosing, hlisteners h.listeners, hloop other h.loop⟩

theorem Over.run (capacity : Nat) (h : p.Over) {later : List Doing} (other : .startLoop ∉ later) :
    (p.run capacity later).Over ∧ ∀ n ∈ (p.run capacity later).timers, n ∈ p.timers := by
  induction later generalizing p with
  | nil => exact ⟨h, fun n hn => hn⟩
  | cons d later ih =>
    rw [List.mem_cons, not_or] at other
    obtain ⟨hover, htimers⟩ := ih (h.undergo capacity (Ne.symm other.1)) other.2
    exact ⟨hover, fun n hn => (h.closing.undergo capacity d).2.1 n (htimers n hn)⟩

theorem Over.takeQueued? (h : p.Over) : p.eventLoop.takeQueued? = none := by
  unfold EventLoop.takeQueued?
  split
  · next hloop _ => exact absurd hloop (h.loop _)
  · rfl

theorem Over.takeAnnounced? (h : p.Over) : p.eventLoop.takeAnnounced? = none := by
  unfold EventLoop.takeAnnounced?
  split
  · next hloop => exact absurd hloop (h.loop _)
  · rfl

/-- Nothing that was on its way is taken up any more. -/
theorem Over.undergo_take (capacity : Nat) (h : p.Over) :
    p.undergo capacity .takeQueued = p ∧ p.undergo capacity .takeAnnounced = p :=
  ⟨by simp only [Daemon.undergo, h.takeQueued?],
    by simp only [Daemon.undergo, h.takeAnnounced?]⟩

end Daemon

/-- Whether somebody asks for something new: for the loop, for an event to be handled on the spot,
for a pass or for a removal. -/
def Doing.isFresh : Doing → Bool
  | .startLoop => true
  | .handle _ => true
  | .happen _ .start => true
  | .happen _ (.removeAccount _) => true
  | _ => false

theorem Doing.asked_of_old {d : Doing} (old : d.isFresh = false) : d.asked = [] := by
  cases d with
  | happen held e =>
    cases e with
    | removeAccount a => cases old
    | _ => rfl
  | _ => rfl

namespace Daemon

variable {capacity : Nat} {p q : Daemon} {d : Doing}

/-- What is asked for later may be new; nothing that was on its way is handled any more. -/
theorem Over.handles? (h : p.Over) (old : d.isFresh = false) : p.handles? d = none := by
  cases d with
  | handle e => cases old
  | takeQueued => rw [Daemon.handles?, h.takeQueued?]; rfl
  | takeAnnounced => rw [Daemon.handles?, h.takeAnnounced?]
  | _ => rfl

/-- It is over, and nothing is under way any more. -/
structure Silent (p : Daemon) : Prop extends p.Over where
  coherent : p.coordinator.Coherent
  timers : p.timers = []
  ordered : p.ordered = []
  atRest : p.coordinator.AtRest

/-- Unless something new is asked for, nothing begins. -/
theorem Silent.event_of_moments (h : p.Silent) (old : d.isFresh = false) {m : Moment}
    (hm : m ∈ p.moments d) : m.event ≠ .start ∧ ∀ a, m.event ≠ .removeAccount a := by
  have horders := orders_of_quiet (h.handles? old)
  cases d with
  | tick n => simp [moments, h.timers] at hm
  | begin place held => simp [moments, h.ordered] at hm
  | happen held e =>
    obtain rfl := List.mem_singleton.1 hm
    cases e with
    | start | removeAccount => cases old
    | _ => exact ⟨by rintro ⟨⟩, by rintro a ⟨⟩⟩
  | cancel =>
    obtain rfl := List.mem_singleton.1 hm
    exact ⟨by rintro ⟨⟩, by rintro a ⟨⟩⟩
  | _ =>
    simp only [moments, horders] at hm
    cases hm

theorem Silent.undergo (capacity : Nat) (h : p.Silent) (old : d.isFresh = false) :
    (p.undergo capacity d).Silent ∧ (p.undergo capacity d).told = p.told := by
  obtain ⟨hcoordinator, htold⟩ := coordinator_undergo capacity p d
  obtain ⟨hnil, hrest⟩ := h.atRest.run h.coherent fun m hm => h.event_of_moments old hm
  rw [hnil, List.append_nil] at htold
  have hother : d ≠ .startLoop := fun hd => by cases hd; cases old
  have hcalled : p.called d = [] := by
    rw [called, orders_of_quiet (h.handles? old), Doing.asked_of_old old]
    rfl
  have hordered := ordered_undergo capacity p d
  rw [hnil, hcalled, h.ordered] at hordered
  refine ⟨⟨h.toOver.undergo capacity hother, coherent_run capacity h.coherent [d], ?_,
    hordered.eq_nil, ?_⟩, htold⟩
  · refine List.eq_nil_iff_forall_not_mem.2 fun n hn => ?_
    have hmem := (h.closing.undergo capacity d).2.1 n hn
    rw [h.timers] at hmem
    cases hmem
  · rw [hcoordinator]
    exact hrest

theorem Silent.run (h : p.Silent) {later : List Doing} (old : ∀ d ∈ later, d.isFresh = false) :
    (p.run capacity later).told = p.told := by
  induction later generalizing p with
  | nil => rfl
  | cons d later ih =>
    obtain ⟨hsilent, htold⟩ := h.undergo capacity (old d List.mem_cons_self)
    exact (ih hsilent fun d' hd' => old d' (List.mem_cons_of_mem d hd')).trans htold

end Daemon

end SessionSync
