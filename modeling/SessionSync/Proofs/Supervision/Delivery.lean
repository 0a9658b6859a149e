import SessionSync.Pass.Coordinator
import SessionSync.Proofs.Account.Entries
import SessionSync.Proofs.Service.Mailbox
import SessionSync.Supervision.EventLoop

/-!
# How revocations reach the agent

What the store announces goes through the mailbox of the listening task and through the queue of the
supervisor before it is handled, and a removal that is ordered then begins some time later. All of
them take one thing at a time, in any order.

* `Lifecycle` — the event loop with the coordinator that it starts, aborts and has remove accounts.
* `Leads` — one thing is taken up; `Goes` — a run, in which the store may announce more.
-/

namespace SessionSync

/-! ## What an event, an order and an instruction are about -/

/-- Whether an event comes from the store. -/
def SupervisorEvent.fromStore : SupervisorEvent → Bool
  | .signedIn _ => false
  | .signedOut => false
  | .available _ => true
  | .revoked _ => true
  | .loaded => true

/-- The account that an event has removed. -/
def SupervisorEvent.revoked? : SupervisorEvent → Option AccountId
  | .revoked a => some a
  | _ => none

/-- The account that is to be removed. -/
def Order.removal? : Order → Option AccountId
  | .removeAccount a => some a
  | _ => none

/-- The account whose removal begins. -/
def Instruction.removal? : Instruction → Option AccountId
  | .startRemoval a => some a
  | _ => none

@[simp] theorem SupervisorEvent.fromStore_ofToken (e : TokenEvent) :
    (ofToken e).fromStore = true := by
  cases e <;> rfl

theorem SupervisorEvent.ofProfile_signedIn_ne (a : AccountId) :
    ofProfile (.signedIn a) ≠ .signedOut := by
  intro h
  cases h

theorem SupervisorEvent.count_revoked? (e : SupervisorEvent) (a : AccountId) :
    e.revoked?.toList.count a = ([e].filter (·.fromStore)).count (.revoked a) := by
  cases e with
  | revoked b => simp [revoked?, fromStore, List.count_cons]
  | signedIn b | signedOut | available b | loaded => simp [revoked?, fromStore]

/-! ## One thing at a time -/

namespace EventLoop

/-- What the store has announced and no listening task has taken. -/
def unread (d : EventLoop) : List TokenEvent :=
  d.listeners.flatMap (·.2.waiting)

/-- What a listening task passes on: messages, and no word of lost ones. -/
def passedOn : Delivery TokenEvent → List SupervisorEvent
  | .message e => [.ofToken e]
  | .lagged _ => []

/-- A listening task takes one thing out of its mailbox, and passes it on if it is a message. -/
def forwardOne? (d : EventLoop) (task : Nat) : Option EventLoop :=
  match d.listeners.find? (·.1 = task) with
  | none => none
  | some (_, mail) =>
    match mail.take with
    | none => none
    | some (delivery, rest) =>
      let d := { d with
        listeners := d.listeners.map fun l => if l.1 = task then (task, rest) else l }
      match delivery with
      | .message e => some (d.send (.ofToken e)).1
      | .lagged _ => some d

/-- The loop takes one event out of the queue. -/
def takeQueued? (d : EventLoop) : Option (SupervisorEvent × EventLoop) :=
  match d.loop, d.queue with
  | .running _, e :: rest => some (e, { d with queue := rest })
  | _, _ => none

/-- The loop takes one thing out of its mailbox for what the profile announces. -/
def takeAnnounced? (d : EventLoop) : Option (Delivery ProfileEvent × EventLoop) :=
  match d.loop with
  | .running mail => mail.take.map fun r => (r.1, { d with loop := .running r.2 })
  | _ => none

end EventLoop

/-- The lifecycle of the coordinator: the event loop that starts its passes, aborts them and has
accounts removed, with what was handled and told so far. -/
structure Lifecycle where
  /-- The event loop. -/
  eventLoop : EventLoop
  /-- The coordinator. -/
  coordinator : Coordinator := {}
  /-- The accounts whose removal has been ordered and has not begun. -/
  ordered : List AccountId := []
  /-- What the supervisor has handled, oldest first. -/
  handled : List SupervisorEvent := []
  /-- What the agent has been told, oldest first. -/
  told : List Instruction := []

namespace Lifecycle

/-- Carries out an order, as far as it does not concern the event loop. What a timer does later is
an event for the coordinator. -/
def obey (o : Lifecycle) : Order → Lifecycle
  | .startPass => { o with coordinator := o.coordinator.start.1 }
  | .abortPass => { o with coordinator := o.coordinator.abort }
  | .removeAccount a => { o with ordered := o.ordered ++ [a] }
  | _ => o

/-- The supervisor handles an event; a new mailbox keeps so many messages. -/
def handle (capacity : Nat) (o : Lifecycle) (e : SupervisorEvent) : Lifecycle :=
  let (eventLoop, orders) := o.eventLoop.handle capacity e
  orders.foldl obey { o with eventLoop, handled := o.handled ++ [e] }

/-- Something happens to the coordinator, and the agent is told what comes of it. -/
def happen (o : Lifecycle) (s : Surroundings) (e : CoordinatorEvent) : Lifecycle :=
  let r := o.coordinator.step s e
  { o with coordinator := r.coordinator, told := o.told ++ r.instructions }

/-- The store announces things, one after the other. -/
def announce (o : Lifecycle) (sent : List TokenEvent) : Lifecycle :=
  { o with eventLoop := sent.foldl .announceToken o.eventLoop }

/-- One thing that was announced or ordered is taken up. -/
inductive Leads (capacity : Nat) (o : Lifecycle) : Lifecycle → Prop
  | forwards {eventLoop : EventLoop} (task : Nat)
      (takes : o.eventLoop.forwardOne? task = some eventLoop) :
      Leads capacity o { o with eventLoop }
  | handles {eventLoop : EventLoop} {e : SupervisorEvent}
      (takes : o.eventLoop.takeQueued? = some (e, eventLoop)) :
      Leads capacity o ({ o with eventLoop }.handle capacity e)
  | hears {eventLoop : EventLoop} {e : ProfileEvent}
      (takes : o.eventLoop.takeAnnounced? = some (.message e, eventLoop)) :
      Leads capacity o ({ o with eventLoop }.handle capacity (.ofProfile e))
  | misses {eventLoop : EventLoop} {n : Nat}
      (takes : o.eventLoop.takeAnnounced? = some (.lagged n, eventLoop)) :
      Leads capacity o { o with eventLoop }
  | begins (before after : List AccountId) (a : AccountId) (s : Surroundings)
      (ordered : o.ordered = before ++ a :: after) :
      Leads capacity o ({ o with ordered := before ++ after }.happen s (.removeAccount a))

/-- Something else happens that is not about the store: somebody signs in, as the profile announces
or another one reports to the queue, or something other than a removal happens to the coordinator.
-/
inductive Intervenes (o : Lifecycle) : Lifecycle → Prop
  | announces (a : AccountId) :
      Intervenes o { o with eventLoop := o.eventLoop.announceProfile (.signedIn a) }
  | reports (a : AccountId) :
      Intervenes o { o with eventLoop := (o.eventLoop.send (.signedIn a)).1 }
  | happens (s : Surroundings) (e : CoordinatorEvent) (other : ∀ a, e ≠ .removeAccount a) :
      Intervenes o (o.happen s e)

/-- Things go on in any order, while the store announces so much. -/
inductive Goes (capacity : Nat) : Lifecycle → List TokenEvent → Lifecycle → Prop
  | done {o : Lifecycle} : Goes capacity o [] o
  | leads {o q r : Lifecycle} {sent : List TokenEvent} (step : Leads capacity o q)
      (later : Goes capacity q sent r) : Goes capacity o sent r
  | intervenes {o q r : Lifecycle} {sent : List TokenEvent} (step : Intervenes o q)
      (later : Goes capacity q sent r) : Goes capacity o sent r
  | announces {o r : Lifecycle} {sent : List TokenEvent} (e : TokenEvent)
      (later : Goes capacity (o.announce [e]) sent r) : Goes capacity o (e :: sent) r

/-! ## What can be seen -/

/-- What the supervisor has handled of what the store announced. -/
def heard (o : Lifecycle) : List SupervisorEvent :=
  o.handled.filter (·.fromStore)

/-- What the store has announced and is on its way to the supervisor. -/
def onTheWay (o : Lifecycle) : List SupervisorEvent :=
  o.eventLoop.queue.filter (·.fromStore) ++ o.eventLoop.unread.map .ofToken

/-- The removals that the agent was told to begin. -/
def begun (o : Lifecycle) : List AccountId :=
  o.told.filterMap (·.removal?)

/-- Nothing that the store announced is left, and every removal has begun. -/
structure Settled (o : Lifecycle) : Prop where
  unread : o.eventLoop.unread = []
  queue : o.eventLoop.queue = []
  ordered : o.ordered = []

/-- Whatever is taken up first, everything comes to an end, and only when all is settled. -/
inductive Ends (capacity : Nat) : Lifecycle → Prop
  | intro {o : Lifecycle} (free : o.Settled ∨ ∃ q, Leads capacity o q)
      (later : ∀ q, Leads capacity o q → Ends capacity q) : Ends capacity o

end Lifecycle

/-! ## An event loop that listens -/

/-- The supervisor listens to the store, its loop runs, and nobody has signed out. -/
structure EventLoop.Serving (capacity : Nat) (d : EventLoop) : Prop where
  lasting : d.supervisor.closed = false
  listening : ∃ task mail, d.supervisor.listener = some task ∧ d.listeners = [(task, mail)] ∧
    mail.capacity = capacity ∧ mail.WithinCapacity
  running : ∃ mail, d.loop = .running mail ∧ ∀ e ∈ mail.waiting, ∃ a, e = .signedIn a
  queued : .signedOut ∉ d.queue

/-! ## Mail -/

theorem Mailbox.deliveries_take {m rest : Mailbox α} {x : Delivery α}
    (h : m.take = some (x, rest)) : m.deliveries = x :: rest.deliveries := by
  unfold take at h
  split at h
  · next hmissed =>
    cases h
    simp [deliveries, hmissed]
  · next hmissed =>
    cases hwaiting : m.waiting with
    | nil => simp [hwaiting] at h
    | cons a l =>
      simp only [hwaiting, Option.some.injEq, Prod.mk.injEq] at h
      obtain ⟨rfl, rfl⟩ := h
      simp [deliveries, hmissed, hwaiting]

/-- A message that is taken was the oldest one, and word of lost messages leaves the others waiting.
-/
theorem Mailbox.waiting_take {m rest : Mailbox α} {x : Delivery α}
    (h : m.take = some (x, rest)) :
    rest.capacity = m.capacity ∧
      ((∃ a, x = .message a ∧ m.waiting = a :: rest.waiting)
        ∨ (∃ n, x = .lagged n) ∧ rest.waiting = m.waiting) := by
  unfold take at h
  split at h
  · cases h
    exact ⟨rfl, .inr ⟨⟨_, rfl⟩, rfl⟩⟩
  · cases hwaiting : m.waiting with
    | nil => simp [hwaiting] at h
    | cons a l =>
      simp only [hwaiting, Option.some.injEq, Prod.mk.injEq] at h
      obtain ⟨rfl, rfl⟩ := h
      exact ⟨rfl, .inl ⟨a, rfl, rfl⟩⟩

theorem Mailbox.mem_post {m : Mailbox α} {a b : α} (h : b ∈ (m.post a).waiting) :
    b ∈ m.waiting ∨ b = a := by
  unfold post at h
  split at h
  · simpa using h
  · rcases List.mem_append.1 h with h | h
    · exact .inl (List.mem_of_mem_drop h)
    · exact .inr (List.mem_singleton.1 h)

theorem Mailbox.exists_take {m : Mailbox α} (h : m.waiting ≠ []) :
    ∃ x rest, m.take = some (x, rest) := by
  unfold take
  split
  · exact ⟨_, _, rfl⟩
  · cases hwaiting : m.waiting with
    | nil => exact absurd hwaiting h
    | cons a l => exact ⟨_, _, rfl⟩

namespace EventLoop

variable {d d' : EventLoop}

/-- The only listening task has taken something. -/
theorem forwardOne?_eq_some {own task : Nat} {mail : Mailbox TokenEvent}
    {bell : Mailbox ProfileEvent} (listeners : d.listeners = [(own, mail)])
    (loop : d.loop = .running bell) (h : d.forwardOne? task = some d') :
    ∃ x rest, mail.take = some (x, rest)
      ∧ d' = { d with listeners := [(own, rest)], queue := d.queue ++ passedOn x } := by
  unfold forwardOne? at h
  rw [listeners] at h
  by_cases htask : own = task
  · subst htask
    simp only [List.find?_cons, decide_true, List.map_cons, if_true, List.map_nil] at h
    cases htake : mail.take with
    | none => simp [htake] at h
    | some r =>
      obtain ⟨x, rest⟩ := r
      refine ⟨x, rest, rfl, ?_⟩
      cases x with
      | message e =>
        simp only [htake, send, loop, Option.some.injEq] at h
        rw [← h, loop]
        rfl
      | lagged n =>
        simp only [htake, Option.some.injEq] at h
        rw [← h, passedOn, List.append_nil]
  · simp [htask] at h

theorem exists_forwardOne? {own : Nat} {mail rest : Mailbox TokenEvent} {x : Delivery TokenEvent}
    (listeners : d.listeners = [(own, mail)]) (takes : mail.take = some (x, rest)) :
    ∃ d', d.forwardOne? own = some d' := by
  unfold forwardOne?
  rw [listeners, List.find?_cons_of_pos (by simp)]
  simp only [takes]
  cases x <;> exact ⟨_, rfl⟩

theorem takeQueued?_eq_some {e : SupervisorEvent} (h : d.takeQueued? = some (e, d')) :
    ∃ rest, d.queue = e :: rest ∧ d' = { d with queue := rest } := by
  unfold takeQueued? at h
  split at h
  · next e' rest hloop hqueue =>
    cases h
    exact ⟨rest, hqueue, rfl⟩
  · cases h

theorem takeAnnounced?_eq_some {bell : Mailbox ProfileEvent} {x : Delivery ProfileEvent}
    (loop : d.loop = .running bell) (h : d.takeAnnounced? = some (x, d')) :
    ∃ rest, bell.take = some (x, rest) ∧ d' = { d with loop := .running rest } := by
  unfold takeAnnounced? at h
  rw [loop] at h
  obtain ⟨⟨y, rest⟩, htake, heq⟩ := Option.map_eq_some_iff.1 h
  cases heq
  exact ⟨rest, htake, rfl⟩

end EventLoop

/-! ## The coordinator begins removals only when it is told to -/

namespace Coordinator

/-- No removal is begun. -/
def NoRemoval (r : Reaction) : Prop :=
  r.instructions.filterMap (·.removal?) = []

variable (c : Coordinator) (s : Surroundings) (f p : Nat)

theorem filterMap_removal?_planned (state : PassState) (primary : Option AccountId) :
    (planned state primary).filterMap (·.removal?) = [] := by
  unfold planned
  split
  · rfl
  · split
    · rw [List.filterMap_map, List.filterMap_eq_nil_iff]
      exact fun _ _ => rfl
    · rfl

theorem noRemoval_finish : NoRemoval (c.finish s f p) := by
  unfold finish NoRemoval
  dsimp only
  split
  · dsimp only
    split
    · exact filterMap_removal?_planned _ _
    · rfl
  · rfl

theorem noRemoval_proceed (listDue : Bool) (checks : Checks) :
    NoRemoval (c.proceed s f p listDue checks) := by
  unfold proceed
  split
  · exact c.noRemoval_finish s f p
  · rfl

theorem noRemoval_resolve (a : AccountId) (validity : Validity) :
    NoRemoval (c.resolve s f a validity) := by
  unfold resolve
  split
  · unfold continueWith
    split
    · exact noRemoval_proceed _ s f _ _ _
    · rfl
    · rfl
  · rfl

theorem noRemoval_listed (answer : Except CallError String) :
    NoRemoval (c.listed s f answer) := by
  unfold listed
  dsimp only
  split
  · exact noRemoval_proceed _ s f _ _ _
  · rfl
  · rfl
  · rfl

/-- Only a removal that is asked for begins. -/
theorem removal?_step (e : CoordinatorEvent) :
    (c.step s e).instructions.filterMap (·.removal?) =
      match e with
      | .removeAccount a => [a]
      | _ => [] := by
  cases e with
  | start | abort | readSession | removeAccount => rfl
  | launch f =>
    show (c.launch s f).instructions.filterMap (·.removal?) = []
    unfold launch
    split <;> rfl
  | checkAccounts =>
    show (c.checkAccounts s).instructions.filterMap (·.removal?) = []
    unfold checkAccounts
    split <;> rfl
  | listed f answer => exact c.noRemoval_listed s f answer
  | minted f a answer =>
    show NoRemoval (c.minted s f a answer)
    unfold minted
    split
    · cases answer with
      | ok token => rfl
      | error e => exact c.noRemoval_resolve s f a .invalid
    · rfl
  | identified f a answer =>
    show NoRemoval (c.identified s f a answer)
    unfold identified
    split
    · cases answer with
      | ok owner => exact c.noRemoval_resolve s f a .valid
      | error e => exact c.noRemoval_resolve s f a .invalid
    · rfl

end Coordinator

/-! ## Handling an event -/

/-- What an event does while the supervisor listens to the store. -/
theorem Supervisor.handle_of_listening {s : Supervisor} {task : Nat} (lasting : s.closed = false)
    (listening : s.listener = some task) {e : SupervisorEvent} (stays : e ≠ .signedOut) :
    ∃ t orders, s.handle e = (t, orders) ∧ t.closed = false ∧ t.listener = some task
      ∧ (∀ x ∈ orders, (∃ n, x = .startTimer n) ∨ x = .startPass ∨ ∃ a, x = .removeAccount a)
      ∧ orders.filterMap (·.removal?) = e.revoked?.toList := by
  have hlistens : s.isListening = true := by rw [isListening, listening]; rfl
  cases e with
  | signedOut => exact absurd rfl stays
  | available a => exact ⟨s, [], rfl, lasting, listening, nofun, rfl⟩
  | loaded =>
    refine ⟨s, [.startPass], ?_, lasting, listening, by simp, rfl⟩
    rw [handle, hlistens]
    rfl
  | revoked a =>
    refine ⟨s, [.removeAccount a], ?_, lasting, listening, by simp, rfl⟩
    rw [handle, hlistens]
    rfl
  | signedIn a =>
    show ∃ t orders, s.signedIn = (t, orders) ∧ _
    unfold signedIn
    split
    · exact ⟨s, [], rfl, lasting, listening, nofun, rfl⟩
    · simp only [listen, listening]
      split
      · unfold startTimer
        split
        · exact ⟨s, [], rfl, lasting, listening, nofun, rfl⟩
        · refine ⟨_, _, rfl, lasting, listening, ?_, ?_⟩
          · simp [begin, lasting]
          · simp [begin, lasting, Order.removal?, SupervisorEvent.revoked?]
      · exact ⟨s, [], rfl, lasting, listening, nofun, rfl⟩

variable {capacity : Nat}

namespace EventLoop

theorem foldl_obey_of_idle {orders : List Order} (h : ∀ x ∈ orders,
    (∃ n, x = .startTimer n) ∨ x = .startPass ∨ ∃ a, x = .removeAccount a) (d : EventLoop) :
    orders.foldl (obey capacity) d = d := by
  induction orders with
  | nil => rfl
  | cons x orders ih =>
    have hx : d.obey capacity x = d := by
      rcases h x List.mem_cons_self with ⟨n, rfl⟩ | rfl | ⟨a, rfl⟩ <;> rfl
    rw [List.foldl_cons, hx]
    exact ih fun y hy => h y (List.mem_cons_of_mem x hy)

namespace Serving

variable {d : EventLoop} {own : Nat} {mail rest : Mailbox TokenEvent} {bell : Mailbox ProfileEvent}

theorem exists_mail (h : d.Serving capacity) :
    ∃ own mail bell, d.listeners = [(own, mail)] ∧ d.loop = .running bell := by
  obtain ⟨-, ⟨own, mail, -, listeners, -⟩, ⟨bell, loop, -⟩, -⟩ := h
  exact ⟨own, mail, bell, listeners, loop⟩

/-- The listening task has taken something. -/
theorem forwarded (h : d.Serving capacity) (listeners : d.listeners = [(own, mail)])
    {x : Delivery TokenEvent} (takes : mail.take = some (x, rest)) :
    ({ d with listeners := [(own, rest)], queue := d.queue ++ passedOn x } :
      EventLoop).Serving capacity := by
  obtain ⟨lasting, ⟨own', mail', listener, listeners', hcapacity, pos, length⟩, running,
    queued⟩ := h
  rw [listeners] at listeners'
  cases listeners'
  obtain ⟨hrest, hwaiting⟩ := Mailbox.waiting_take takes
  refine ⟨lasting, ⟨own, rest, listener, rfl, hrest.trans hcapacity, hrest ▸ pos, ?_⟩, running, ?_⟩
  · rw [hrest]
    rcases hwaiting with ⟨e, -, hwaiting⟩ | ⟨-, hwaiting⟩
    · rw [hwaiting] at length
      exact (Nat.le_succ _).trans length
    · rwa [hwaiting]
  · show SupervisorEvent.signedOut ∉ d.queue ++ passedOn x
    rw [List.mem_append, not_or]
    refine ⟨queued, ?_⟩
    cases x with
    | message e => cases e <;> simp [passedOn, SupervisorEvent.ofToken]
    | lagged n => exact List.not_mem_nil

/-- The loop has taken an event out of the queue. -/
theorem popped (h : d.Serving capacity) {e : SupervisorEvent} {later : List SupervisorEvent}
    (queue : d.queue = e :: later) :
    ({ d with queue := later } : EventLoop).Serving capacity ∧ e ≠ .signedOut := by
  obtain ⟨lasting, listening, running, queued⟩ := h
  rw [queue] at queued
  exact ⟨⟨lasting, listening, running, fun hmem => queued (List.mem_cons_of_mem _ hmem)⟩,
    fun heq => queued (heq ▸ List.mem_cons_self)⟩

/-- The loop has taken something that the profile announced. -/
theorem rung (h : d.Serving capacity) (loop : d.loop = .running bell)
    {x : Delivery ProfileEvent} {later : Mailbox ProfileEvent}
    (takes : bell.take = some (x, later)) :
    ({ d with loop := .running later } : EventLoop).Serving capacity
      ∧ ∀ e, x = .message e → ∃ a, e = .signedIn a := by
  obtain ⟨lasting, listening, ⟨bell', loop', quiet⟩, queued⟩ := h
  rw [loop] at loop'
  cases loop'
  obtain ⟨-, ⟨e, rfl, hwaiting⟩ | ⟨⟨n, rfl⟩, hwaiting⟩⟩ := Mailbox.waiting_take takes
  · refine ⟨⟨lasting, listening, ⟨later, rfl, fun e' he' => ?_⟩, queued⟩, fun e' he' => ?_⟩
    · exact quiet e' (hwaiting ▸ List.mem_cons_of_mem _ he')
    · cases he'
      exact quiet e (hwaiting ▸ List.mem_cons_self)
  · exact ⟨⟨lasting, listening, ⟨later, rfl, hwaiting ▸ quiet⟩, queued⟩, nofun⟩

end Serving

/-- Handling an event leaves everything on its way where it is. -/
theorem Serving.handle {d : EventLoop} (h : d.Serving capacity) {e : SupervisorEvent}
    (stays : e ≠ .signedOut) :
    ∃ supervisor orders, d.handle capacity e = ({ d with supervisor }, orders)
      ∧ ({ d with supervisor } : EventLoop).Serving capacity
      ∧ orders.filterMap (·.removal?) = e.revoked?.toList := by
  obtain ⟨lasting, ⟨task, mail, listener, listeners, hcapacity, within⟩, running, queued⟩ := h
  obtain ⟨t, orders, heq, hlasting, hlistener, hidle, hremovals⟩ :=
    Supervisor.handle_of_listening lasting listener stays
  refine ⟨t, orders, ?_, ⟨hlasting, ⟨task, mail, hlistener, listeners, hcapacity, within⟩,
    running, queued⟩, hremovals⟩
  rw [EventLoop.handle, heq]
  dsimp only
  rw [foldl_obey_of_idle hidle]

end EventLoop

namespace Lifecycle

variable {o q r : Lifecycle}

theorem foldl_obey (o : Lifecycle) (orders : List Order) :
    (orders.foldl obey o).eventLoop = o.eventLoop ∧ (orders.foldl obey o).handled = o.handled
      ∧ (orders.foldl obey o).told = o.told
      ∧ (orders.foldl obey o).ordered = o.ordered ++ orders.filterMap (·.removal?) := by
  induction orders generalizing o with
  | nil => exact ⟨rfl, rfl, rfl, (List.append_nil _).symm⟩
  | cons x orders ih =>
    obtain ⟨hevents, hhandled, htold, hordered⟩ := ih (o.obey x)
    refine ⟨hevents.trans ?_, hhandled.trans ?_, htold.trans ?_, hordered.trans ?_⟩
    · cases x <;> rfl
    · cases x <;> rfl
    · cases x <;> rfl
    · cases x <;> simp [obey, Order.removal?]

/-- What handling an event comes to. -/
structure Handles (capacity : Nat) (o : Lifecycle) (e : SupervisorEvent) (q : Lifecycle) :
    Prop where
  serving : q.eventLoop.Serving capacity
  queue : q.eventLoop.queue = o.eventLoop.queue
  listeners : q.eventLoop.listeners = o.eventLoop.listeners
  loop : q.eventLoop.loop = o.eventLoop.loop
  handled : q.handled = o.handled ++ [e]
  ordered : q.ordered = o.ordered ++ e.revoked?.toList
  told : q.told = o.told

theorem handles (h : o.eventLoop.Serving capacity) {e : SupervisorEvent} (stays : e ≠ .signedOut) :
    o.Handles capacity e (o.handle capacity e) := by
  obtain ⟨supervisor, orders, heq, hserving, hremovals⟩ := h.handle stays
  have hhandle : o.handle capacity e = orders.foldl obey
      { o with eventLoop := { o.eventLoop with supervisor }, handled := o.handled ++ [e] } := by
    rw [handle, heq]
  obtain ⟨hevents, hhandled, htold, hordered⟩ := foldl_obey
    { o with eventLoop := { o.eventLoop with supervisor }, handled := o.handled ++ [e] } orders
  rw [hhandle]
  refine ⟨?_, ?_, ?_, ?_, hhandled, ?_, htold⟩
  · rw [hevents]
    exact hserving
  · rw [hevents]
  · rw [hevents]
  · rw [hevents]
  · rw [hordered, hremovals]

/-! ## What a step preserves -/

/-- What was on its way is heard or still on its way, in the same order, and a removal is ordered or
begun for every revocation that was heard. -/
structure Continues (capacity : Nat) (o q : Lifecycle) : Prop where
  serving : q.eventLoop.Serving capacity
  passes : q.heard ++ q.onTheWay = o.heard ++ o.onTheWay
  fewer : q.eventLoop.unread.length ≤ o.eventLoop.unread.length
  removes : ∀ a, (q.begun ++ q.ordered).count a + o.heard.count (.revoked a) =
    (o.begun ++ o.ordered).count a + q.heard.count (.revoked a)

theorem Continues.refl (h : o.eventLoop.Serving capacity) : Continues capacity o o :=
  ⟨h, rfl, Nat.le_refl _, fun _ => rfl⟩

theorem Continues.trans (h : Continues capacity o q) (k : Continues capacity q r) :
    Continues capacity o r := by
  refine ⟨k.serving, k.passes.trans h.passes, k.fewer.trans h.fewer, fun a => ?_⟩
  have := h.removes a
  have := k.removes a
  omega

/-- A step that only moves what is on its way. -/
theorem continues_of_eventLoop {eventLoop : EventLoop} (serving : eventLoop.Serving capacity)
    (same : eventLoop.queue.filter (·.fromStore) ++ eventLoop.unread.map .ofToken = o.onTheWay)
    (fewer : eventLoop.unread.length ≤ o.eventLoop.unread.length) :
    Continues capacity o { o with eventLoop } :=
  ⟨serving, congrArg (o.heard ++ ·) same, fewer, fun _ => rfl⟩

theorem continues_forwards {eventLoop : EventLoop} {task : Nat} (h : o.eventLoop.Serving capacity)
    (takes : o.eventLoop.forwardOne? task = some eventLoop) :
    Continues capacity o { o with eventLoop } := by
  obtain ⟨own, mail, bell, listeners, loop⟩ := h.exists_mail
  obtain ⟨x, rest, htake, rfl⟩ := EventLoop.forwardOne?_eq_some listeners loop takes
  refine continues_of_eventLoop (h.forwarded listeners htake) ?_ ?_
  · obtain ⟨-, ⟨e, rfl, hwaiting⟩ | ⟨⟨n, rfl⟩, hwaiting⟩⟩ := Mailbox.waiting_take htake <;>
      simp [onTheWay, EventLoop.unread, EventLoop.passedOn, listeners, hwaiting]
  · obtain ⟨-, ⟨e, -, hwaiting⟩ | ⟨-, hwaiting⟩⟩ := Mailbox.waiting_take htake <;>
      simp [EventLoop.unread, listeners, hwaiting]

/-- Handling an event that has been taken out of the queue or of the other mailbox. -/
theorem continues_handle {eventLoop : EventLoop} {e : SupervisorEvent}
    (serving : eventLoop.Serving capacity) (stays : e ≠ .signedOut)
    (same : [e].filter (·.fromStore) ++
      (eventLoop.queue.filter (·.fromStore) ++ eventLoop.unread.map .ofToken) = o.onTheWay)
    (fewer : eventLoop.unread.length ≤ o.eventLoop.unread.length) :
    Continues capacity o ({ o with eventLoop }.handle capacity e) := by
  have h := handles (o := { o with eventLoop }) serving stays
  have hheard : ({ o with eventLoop }.handle capacity e).heard =
      o.heard ++ [e].filter (·.fromStore) := by
    rw [heard, h.handled, List.filter_append]
    rfl
  refine ⟨h.serving, ?_, ?_, fun a => ?_⟩
  · rw [hheard, ← same, onTheWay, EventLoop.unread, h.queue, h.listeners, List.append_assoc]
    rfl
  · rw [EventLoop.unread, h.listeners]
    exact fewer
  · have hbegun : ({ o with eventLoop }.handle capacity e).begun = o.begun := by
      rw [begun, h.told]
      rfl
    have hordered : ({ o with eventLoop }.handle capacity e).ordered =
        o.ordered ++ e.revoked?.toList := h.ordered
    rw [hbegun, hheard, hordered, List.count_append, List.count_append, List.count_append,
      List.count_append, e.count_revoked? a]
    omega

theorem continues_happen (h : o.eventLoop.Serving capacity) (s : Surroundings)
    (e : CoordinatorEvent) (other : ∀ a, e ≠ .removeAccount a) :
    Continues capacity o (o.happen s e) := by
  have hbegun : (o.happen s e).begun = o.begun := by
    show (o.told ++ _).filterMap (·.removal?) = _
    rw [List.filterMap_append, Coordinator.removal?_step]
    cases e with
    | removeAccount a => exact absurd rfl (other a)
    | _ => exact List.append_nil _
  refine ⟨h, rfl, Nat.le_refl _, fun a => ?_⟩
  rw [hbegun]
  rfl

theorem continues_begins {before after : List AccountId} {a : AccountId}
    (h : o.eventLoop.Serving capacity) (s : Surroundings)
    (ordered : o.ordered = before ++ a :: after) :
    Continues capacity o
      ({ o with ordered := before ++ after }.happen s (.removeAccount a)) := by
  have hbegun : ({ o with ordered := before ++ after }.happen s (.removeAccount a)).begun =
      o.begun ++ [a] := by
    show (o.told ++ _).filterMap (·.removal?) = _
    rw [List.filterMap_append, Coordinator.removal?_step]
    rfl
  refine ⟨h, rfl, Nat.le_refl _, fun b => ?_⟩
  have hcount : ((o.begun ++ [a]) ++ (before ++ after)).count b =
      (o.begun ++ o.ordered).count b := by
    rw [ordered]
    simp only [List.count_append, List.count_cons, List.count_nil]
    omega
  rw [hbegun, ← hcount]
  rfl

theorem Leads.continues (h : o.eventLoop.Serving capacity) (step : Leads capacity o q) :
    Continues capacity o q := by
  cases step with
  | forwards task takes => exact continues_forwards h takes
  | @handles eventLoop e takes =>
    obtain ⟨rest, hqueue, rfl⟩ := EventLoop.takeQueued?_eq_some takes
    obtain ⟨hserving, hstays⟩ := h.popped hqueue
    refine continues_handle hserving hstays ?_ (Nat.le_refl _)
    rw [onTheWay, hqueue, ← List.append_assoc, ← List.filter_append]
    rfl
  | @hears eventLoop e takes =>
    obtain ⟨own, mail, bell, -, loop⟩ := h.exists_mail
    obtain ⟨rest, htake, rfl⟩ := EventLoop.takeAnnounced?_eq_some loop takes
    obtain ⟨hserving, hquiet⟩ := h.rung loop htake
    obtain ⟨a, rfl⟩ := hquiet e rfl
    exact continues_handle hserving (SupervisorEvent.ofProfile_signedIn_ne a) rfl (Nat.le_refl _)
  | @misses eventLoop n takes =>
    obtain ⟨own, mail, bell, -, loop⟩ := h.exists_mail
    obtain ⟨rest, htake, rfl⟩ := EventLoop.takeAnnounced?_eq_some loop takes
    exact continues_of_eventLoop (h.rung loop htake).1 rfl (Nat.le_refl _)
  | begins before after a s ordered => exact continues_begins h s ordered

theorem Intervenes.continues (h : o.eventLoop.Serving capacity) (step : Intervenes o q) :
    Continues capacity o q := by
  cases step with
  | announces a =>
    obtain ⟨lasting, listening, ⟨bell, loop, quiet⟩, queued⟩ := h
    have hevents : o.eventLoop.announceProfile (.signedIn a) =
        { o.eventLoop with loop := .running (bell.post (.signedIn a)) } := by
      rw [EventLoop.announceProfile, loop]
    rw [hevents]
    refine continues_of_eventLoop ⟨lasting, listening, ⟨_, rfl, fun e he => ?_⟩, queued⟩ rfl
      (Nat.le_refl _)
    rcases Mailbox.mem_post he with he | rfl
    · exact quiet e he
    · exact ⟨a, rfl⟩
  | reports a =>
    obtain ⟨lasting, listening, ⟨bell, loop, quiet⟩, queued⟩ := h
    have hevents : (o.eventLoop.send (.signedIn a)).1 =
        { o.eventLoop with queue := o.eventLoop.queue ++ [.signedIn a] } := by
      simp only [EventLoop.send, loop]
    rw [hevents]
    refine continues_of_eventLoop ⟨lasting, listening, ⟨bell, loop, quiet⟩, ?_⟩ ?_
      (Nat.le_refl _)
    · simp [queued]
    · simp [onTheWay, EventLoop.unread, SupervisorEvent.fromStore]
  | happens s e other => exact continues_happen h s e other

end Lifecycle

end SessionSync
