import SessionSync.Proofs.Supervision.Turns

/-!
# What handling an event can do

The supervisor keeps up to two tasks: one that listens to the store, and one that makes passes
periodically. This file says once what an event does to the two.

* `InStep` — both run, or neither does, but that periodic passes may not be enabled.
* `Handling` lists everything that handling an event can come to; `InStep.handling` says that the
  list is complete while the two are in step.
* `InStep.handle` — they stay in step, and whether they run depends on who has signed in or out
  last.
* `Handling.carriedOut` — the orders begin and end just the tasks that the supervisor keeps.
* `EventLoop.handle_fst` — handling an event concerns the supervisor and its listening tasks only.
-/

namespace SessionSync

/-- Whether somebody counts as signed in after an event. -/
def SupervisorEvent.settles (on : Bool) : SupervisorEvent → Bool
  | .signedIn _ => true
  | .signedOut => false
  | _ => on

theorem SupervisorEvent.settles_of_fromStore {e : SupervisorEvent} (h : e.fromStore = true)
    (on : Bool) : e.settles on = on := by
  cases e with
  | signedIn | signedOut => cases h
  | available | revoked | loaded => rfl

theorem SupervisorEvent.foldl_settles_of_fromStore {events : List SupervisorEvent}
    (h : ∀ e ∈ events, e.fromStore = true) (on : Bool) : events.foldl settles on = on := by
  induction events generalizing on with
  | nil => rfl
  | cons e events ih =>
    rw [List.foldl_cons, settles_of_fromStore (h e List.mem_cons_self)]
    exact ih (fun e' he' => h e' (List.mem_cons_of_mem e he')) on

namespace Supervisor

/-- Nothing has been shut down, and passes are made periodically exactly while the supervisor
listens to the store and that is enabled. -/
structure InStep (periodic : Bool) (s : Supervisor) : Prop where
  lasting : s.closed = false
  enabled : s.periodicEnabled = periodic
  inStep : s.isPeriodic = (s.isListening && periodic)

/-- Everything that handling an event can come to. -/
inductive Handling (s : Supervisor) : SupervisorEvent → Supervisor → List Order → Prop
  /-- No task begins or ends. -/
  | stays {e : SupervisorEvent} {orders : List Order}
      (same : e.settles s.isListening = s.isListening)
      (quiet : ∀ x ∈ orders, x = .startPass ∨ ∃ a, x = .removeAccount a) :
      Handling s e s orders
  /-- A task begins to listen to the store. -/
  | listens (a : AccountId) (listener : s.listener = none) (timer : s.timer = none)
      (enabled : s.periodicEnabled = false) :
      Handling s (.signedIn a) { s with listener := some s.nextTask, nextTask := s.nextTask + 1 }
        [.listen s.nextTask]
  /-- A task begins to listen to the store, and another one to make passes periodically. -/
  | begins (a : AccountId) (listener : s.listener = none) (timer : s.timer = none)
      (enabled : s.periodicEnabled = true) :
      Handling s (.signedIn a)
        { s with
          listener := some s.nextTask
          timer := some (s.nextTask + 1)
          nextTask := s.nextTask + 2 }
        [.listen s.nextTask, .startTimer (s.nextTask + 1)]
  /-- The tasks end, and the pass in flight is given up. -/
  | ends :
      Handling s .signedOut { s with listener := none, timer := none }
        (s.stopOrders ++ [.abortPass])

section

variable {periodic : Bool} {s : Supervisor}

/-- A supervisor that listens has nothing to do when somebody signs in, be it the same account or
another one. -/
theorem InStep.signedIn_of_listening (h : s.InStep periodic) (listening : s.isListening = true)
    (a : AccountId) : s.handle (.signedIn a) = (s, []) := by
  obtain ⟨task, hlistener⟩ := Option.isSome_iff_exists.1 listening
  have hperiodic : s.isPeriodic = periodic := by rw [h.inStep, listening, Bool.true_and]
  show s.signedIn = (s, [])
  unfold signedIn
  rw [listening, hperiodic, Bool.true_and]
  cases henabled : periodic with
  | true => rfl
  | false => simp [listen, hlistener, h.enabled, henabled]

theorem InStep.handling_signedIn (h : s.InStep periodic) (a : AccountId) :
    Handling s (.signedIn a) (s.handle (.signedIn a)).1 (s.handle (.signedIn a)).2 := by
  cases hlistener : s.listener with
  | some task =>
    have listening : s.isListening = true := by rw [isListening, hlistener]; rfl
    rw [h.signedIn_of_listening listening a]
    exact .stays listening.symm (by rintro _ ⟨⟩)
  | none =>
    have hlistening : s.isListening = false := by rw [isListening, hlistener]; rfl
    have htimer : s.timer = none := by
      have hperiodic := h.inStep
      rw [hlistening, Bool.false_and] at hperiodic
      simpa [isPeriodic] using hperiodic
    cases henabled : s.periodicEnabled with
    | false =>
      have hhandle : s.handle (.signedIn a) =
          ({ s with listener := some s.nextTask, nextTask := s.nextTask + 1 },
            [.listen s.nextTask]) := by
        simp [handle, signedIn, hlistening, listen, hlistener, begin, h.lasting, henabled]
      rw [hhandle]
      exact .listens a hlistener htimer henabled
    | true =>
      have hhandle : s.handle (.signedIn a) =
          ({ s with
              listener := some s.nextTask
              timer := some (s.nextTask + 1)
              nextTask := s.nextTask + 2 },
            [.listen s.nextTask, .startTimer (s.nextTask + 1)]) := by
        simp [handle, signedIn, hlistening, listen, hlistener, startTimer, htimer, begin, h.lasting,
          henabled]
      rw [hhandle]
      exact .begins a hlistener htimer henabled

/-- Handling an event does nothing that is not listed in `Handling`. -/
theorem InStep.handling (h : s.InStep periodic) (e : SupervisorEvent) :
    Handling s e (s.handle e).1 (s.handle e).2 := by
  cases e with
  | signedIn a => exact h.handling_signedIn a
  | signedOut => exact .ends
  | available a => exact .stays rfl (by rintro _ ⟨⟩)
  | loaded =>
    refine .stays rfl fun x hx => .inl ?_
    simp only [handle] at hx
    split at hx
    · exact List.mem_singleton.1 hx
    · cases hx
  | revoked a =>
    refine .stays rfl fun x hx => .inr ⟨a, ?_⟩
    simp only [handle] at hx
    split at hx
    · exact List.mem_singleton.1 hx
    · cases hx

/-- The tasks stay in step, and run after somebody has signed in and not after everybody has signed
out. -/
theorem InStep.handle (h : s.InStep periodic) (e : SupervisorEvent) :
    (s.handle e).1.InStep periodic ∧ (s.handle e).1.isListening = e.settles s.isListening := by
  obtain ⟨lasting, enabled, inStep⟩ := h
  have handling := InStep.handling ⟨lasting, enabled, inStep⟩ e
  generalize s.handle e = r at handling
  obtain ⟨t, orders⟩ := r
  dsimp only at handling ⊢
  cases handling with
  | stays same => exact ⟨⟨lasting, enabled, inStep⟩, same.symm⟩
  | listens a listener timer disabled =>
    rw [enabled] at disabled
    exact ⟨⟨lasting, enabled, by simp [isPeriodic, timer, disabled]⟩, rfl⟩
  | begins a listener timer enabled' =>
    rw [enabled] at enabled'
    exact ⟨⟨lasting, enabled, by simp [isPeriodic, isListening, enabled']⟩, rfl⟩
  | ends => exact ⟨⟨lasting, enabled, rfl⟩, rfl⟩

end

/-! ## Orders carried out -/

/-- The listening tasks after an order. -/
def onListeners (tasks : List Nat) : Order → List Nat
  | .listen task => tasks ++ [task]
  | .stopListening task => tasks.filter (· ≠ task)
  | _ => tasks

/-- The tasks that make passes periodically, after an order. -/
def onTimers (tasks : List Nat) : Order → List Nat
  | .startTimer task => tasks ++ [task]
  | .stopTimer task => tasks.filter (· ≠ task)
  | _ => tasks

/-- Orders that neither begin nor end a task leave the tasks of either kind as they are. -/
theorem foldl_of_quiet {orders : List Order} {change : List Nat → Order → List Nat}
    (quiet : ∀ x ∈ orders, x = .startPass ∨ ∃ a, x = .removeAccount a)
    (passes : ∀ tasks, change tasks .startPass = tasks)
    (removals : ∀ tasks a, change tasks (.removeAccount a) = tasks) (tasks : List Nat) :
    orders.foldl change tasks = tasks := by
  induction orders with
  | nil => rfl
  | cons x orders ih =>
    have hx : change tasks x = tasks := by
      rcases quiet x List.mem_cons_self with rfl | ⟨a, rfl⟩
      · exact passes tasks
      · exact removals tasks a
    rw [List.foldl_cons, hx]
    exact ih fun y hy => quiet y (List.mem_cons_of_mem x hy)

/-- With the orders carried out, the tasks that run are those that the supervisor keeps. -/
theorem Handling.carriedOut {s t : Supervisor} {e : SupervisorEvent} {orders : List Order}
    (h : Handling s e t orders) :
    orders.foldl onListeners s.listener.toList = t.listener.toList
      ∧ orders.foldl onTimers s.timer.toList = t.timer.toList := by
  cases h with
  | stays same quiet =>
    exact ⟨foldl_of_quiet quiet (fun _ => rfl) (fun _ _ => rfl) _,
      foldl_of_quiet quiet (fun _ => rfl) (fun _ _ => rfl) _⟩
  | listens a listener timer => simp [listener, onListeners, onTimers]
  | begins a listener timer => simp [listener, timer, onListeners, onTimers]
  | ends =>
    cases hlistener : s.listener <;> cases htimer : s.timer <;>
      simp [stopOrders, hlistener, htimer, onListeners, onTimers]

/-- A new supervisor is in step with the profile. -/
theorem inStep_new (periodic : Bool) (p : Profile) :
    (new periodic p).1.InStep periodic ∧ (new periodic p).1.isListening = p.isSignedIn := by
  have hfresh : InStep periodic { periodicEnabled := periodic } := ⟨rfl, rfl, rfl⟩
  unfold new Profile.isSignedIn
  cases p.primary with
  | none => exact ⟨hfresh, rfl⟩
  | some a => exact hfresh.handle (.signedIn a)

end Supervisor

/-! ## The event loop -/

namespace EventLoop

variable {capacity : Nat}

/-- Orders concern the listening tasks of the event loop only. -/
theorem foldl_obey_eq (orders : List Order) (d : EventLoop) :
    orders.foldl (obey capacity) d =
      { d with listeners := (orders.foldl (obey capacity) d).listeners } := by
  induction orders generalizing d with
  | nil => rfl
  | cons x orders ih =>
    rw [List.foldl_cons, ih (obey capacity d x)]
    cases x <;> rfl

/-- Handling an event concerns the supervisor and its listening tasks only. -/
theorem handle_fst (capacity : Nat) (d : EventLoop) (e : SupervisorEvent) :
    (d.handle capacity e).1 =
      { d with
        supervisor := (d.supervisor.handle e).1
        listeners := (d.handle capacity e).1.listeners } :=
  foldl_obey_eq _ _

theorem new_fst (capacity : Nat) (periodic : Bool) (p : Profile) :
    (new capacity periodic p).1 =
      { supervisor := (Supervisor.new periodic p).1
        listeners := (new capacity periodic p).1.listeners } :=
  foldl_obey_eq _ _

theorem tasks_obey (d : EventLoop) (x : Order) :
    (d.obey capacity x).listeners.map (·.1) =
      Supervisor.onListeners (d.listeners.map (·.1)) x := by
  cases x with
  | listen task => simp [obey, Supervisor.onListeners]
  | stopListening task => simp [obey, Supervisor.onListeners, List.filter_map, Function.comp_def]
  | stopTimer | startTimer | startPass | abortPass | removeAccount => rfl

/-- Orders begin and end the listening tasks of the event loop. -/
theorem tasks_foldl_obey (orders : List Order) (d : EventLoop) :
    (orders.foldl (obey capacity) d).listeners.map (·.1) =
      orders.foldl Supervisor.onListeners (d.listeners.map (·.1)) :=
  (List.foldl_hom (fun d : EventLoop => d.listeners.map (·.1))
    fun d x => (tasks_obey d x).symm).symm

/-- The loop finds what is in the queue, and then what the profile has announced. -/
theorem waiting_of_running {d : EventLoop} {mail : Mailbox ProfileEvent}
    (loop : d.loop = .running mail) : d.waiting = d.queue ++ mail.waiting.map .ofProfile := by
  obtain ⟨pick, message, lagged, hwaiting⟩ := Lifecycle.exists_waiting loop
  rw [hwaiting, Mailbox.deliveries, List.filterMap_append, List.filterMap_map]
  have hlagged : (if mail.missed ≠ 0 then [Delivery.lagged mail.missed] else []).filterMap pick =
      [] := by
    split <;> simp [lagged]
  have hmessages : pick ∘ Delivery.message = fun e => some (SupervisorEvent.ofProfile e) :=
    funext message
  rw [hlagged, hmessages, List.nil_append, List.filterMap_eq_map']

end EventLoop

end SessionSync
