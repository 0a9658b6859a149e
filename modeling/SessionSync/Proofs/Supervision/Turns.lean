import SessionSync.Proofs.Supervision.Delivery

/-!
# Whole turns

A turn of the listening task, and a turn of the loop, take everything that waits. Either comes to
the same as taking one thing after the other.

* `goes_forward` — a turn of the listening task.
* `goes_turned` — a turn of the loop, which `eventLoop_turned` compares with the turn of the event
  loop. -/

namespace SessionSync

variable {capacity : Nat}

theorem Mailbox.drained_take {m rest : Mailbox α} {x : Delivery α} (h : m.take = some (x, rest)) :
    rest.drained = m.drained := by
  have hcapacity := (waiting_take h).1
  rw [drained, drained, hcapacity]

theorem Mailbox.exists_take_of_deliveries {m : Mailbox α} {x : Delivery α}
    {later : List (Delivery α)} (h : m.deliveries = x :: later) :
    ∃ rest, m.take = some (x, rest) ∧ rest.deliveries = later := by
  obtain ⟨capacity, missed, waiting⟩ := m
  cases missed with
  | zero =>
    cases waiting with
    | nil => cases h
    | cons a l =>
      cases h
      exact ⟨_, rfl, rfl⟩
  | succ n =>
    cases h
    exact ⟨_, rfl, rfl⟩

theorem Mailbox.drained_of_deliveries {m : Mailbox α} (h : m.deliveries = []) : m.drained = m := by
  obtain ⟨capacity, missed, waiting⟩ := m
  cases missed with
  | zero =>
    cases waiting with
    | nil => rfl
    | cons a l => cases h
  | succ n => cases h

/-! ## The listening task -/

namespace EventLoop

variable {d : EventLoop} {own : Nat} {mail : Mailbox TokenEvent} {bell : Mailbox ProfileEvent}

theorem foldl_send (loop : d.loop = .running bell) (events : List SupervisorEvent) :
    events.foldl (fun d e => (d.send e).1) d = { d with queue := d.queue ++ events } := by
  induction events generalizing d with
  | nil => rw [List.append_nil]; rfl
  | cons e events ih =>
    have hsend : (d.send e).1 = { d with queue := d.queue ++ [e] } := by
      simp only [send, loop]
    rw [List.foldl_cons, hsend, ih (d := { d with queue := d.queue ++ [e] }) loop,
      List.append_assoc, List.singleton_append]

theorem filterMap_eq_passedOn {pick : Delivery TokenEvent → Option SupervisorEvent}
    (message : ∀ e, pick (.message e) = some (.ofToken e)) (lagged : ∀ n, pick (.lagged n) = none)
    (deliveries : List (Delivery TokenEvent)) :
    deliveries.filterMap pick = deliveries.flatMap passedOn := by
  induction deliveries with
  | nil => rfl
  | cons x rest ih =>
    cases x with
    | message e => rw [List.filterMap_cons_some (message e), List.flatMap_cons, ih]; rfl
    | lagged n => rw [List.filterMap_cons_none (lagged n), List.flatMap_cons, ih]; rfl

/-- A turn of the only listening task passes on all messages. -/
theorem forward_own (listeners : d.listeners = [(own, mail)]) (loop : d.loop = .running bell) :
    d.forward own = { d with
      listeners := [(own, mail.drained)]
      queue := d.queue ++ mail.deliveries.flatMap passedOn } := by
  have hsent := foldl_send (d := { d with listeners := [(own, mail.drained)] }) loop
    (mail.deliveries.flatMap passedOn)
  have hreplaced : [(own, mail)].map (fun l => if l.1 = own then (own, mail.drained) else l) =
      [(own, mail.drained)] := by simp
  unfold forward
  rw [listeners, List.find?_cons_of_pos (by simp)]
  dsimp only
  rw [hreplaced, filterMap_eq_passedOn (fun _ => rfl) (fun _ => rfl), hsent]

theorem forward_other {task : Nat} (listeners : d.listeners = [(own, mail)]) (other : own ≠ task) :
    d.forward task = d := by
  unfold forward
  rw [listeners, List.find?_cons_of_neg (by simpa using other)]
  rfl

theorem foldl_obey_frame (queue : List SupervisorEvent) (loop : LoopPhase) (orders : List Order)
    (d : EventLoop) : orders.foldl (obey capacity) { d with queue, loop } =
      { orders.foldl (obey capacity) d with queue, loop } := by
  induction orders generalizing d with
  | nil => rfl
  | cons x orders ih =>
    rw [List.foldl_cons, List.foldl_cons, ← ih]
    cases x <;> rfl

/-- Handling an event neither looks at what waits nor changes it. -/
theorem handle_frame (capacity : Nat) (d : EventLoop) (queue : List SupervisorEvent)
    (loop : LoopPhase) (e : SupervisorEvent) :
    ({ d with queue, loop } : EventLoop).handle capacity e =
      ({ (d.handle capacity e).1 with queue, loop }, (d.handle capacity e).2) :=
  congrArg (·, (d.handle capacity e).2)
    (foldl_obey_frame queue loop (d.supervisor.handle e).2
      { d with supervisor := (d.supervisor.handle e).1 })

end EventLoop

namespace Lifecycle

variable {o : Lifecycle}

/-- A turn of a listening task comes to the same as taking one thing after the other. -/
theorem goes_forward (h : o.eventLoop.Serving capacity) (task : Nat) :
    Goes capacity o [] { o with eventLoop := o.eventLoop.forward task } := by
  obtain ⟨own, mail, bell, listeners, loop⟩ := h.exists_mail
  by_cases htask : own = task
  · subst htask
    induction hmail : mail.deliveries generalizing o mail with
    | nil =>
      have hsame : o.eventLoop.forward own = o.eventLoop := by
        rw [EventLoop.forward_own listeners loop, hmail, (Mailbox.drained_of_deliveries hmail),
          ← listeners]
        simp
      rw [hsame]
      exact .done
    | cons x deliveries ih =>
      obtain ⟨rest, htake, hrest⟩ := Mailbox.exists_take_of_deliveries hmail
      obtain ⟨eventLoop, htakes⟩ := EventLoop.exists_forwardOne? listeners htake
      obtain ⟨x', rest', htake', rfl⟩ := EventLoop.forwardOne?_eq_some listeners loop htakes
      rw [htake] at htake'
      cases htake'
      have hlater := ih (o := { o with eventLoop := { o.eventLoop with
        listeners := [(own, rest)], queue := o.eventLoop.queue ++ EventLoop.passedOn x } })
        (h.forwarded listeners htake) rest rfl loop hrest
      have hsame : o.eventLoop.forward own = ({ o.eventLoop with
          listeners := [(own, rest)], queue := o.eventLoop.queue ++ EventLoop.passedOn x } :
            EventLoop).forward own := by
        rw [EventLoop.forward_own listeners loop, EventLoop.forward_own (d := { o.eventLoop with
            listeners := [(own, rest)]
            queue := o.eventLoop.queue ++ EventLoop.passedOn x }) rfl loop,
          Mailbox.drained_take htake, hmail, hrest, List.flatMap_cons, ← List.append_assoc]
      rw [hsame]
      exact .leads (.forwards own htakes) hlater
  · rw [EventLoop.forward_other listeners htask]
    exact .done

/-! ## The loop -/

/-- What waits for the loop: the queue, and what has been announced to it. -/
theorem exists_waiting {d : EventLoop} {bell : Mailbox ProfileEvent}
    (loop : d.loop = .running bell) :
    ∃ pick : Delivery ProfileEvent → Option SupervisorEvent,
      (∀ e, pick (.message e) = some (.ofProfile e)) ∧ (∀ n, pick (.lagged n) = none)
        ∧ d.waiting = d.queue ++ bell.deliveries.filterMap pick := by
  unfold EventLoop.waiting
  rw [loop]
  exact ⟨_, fun _ => rfl, fun _ => rfl, rfl⟩

/-- Events are handled one after the other. -/
def handleAll (capacity : Nat) (o : Lifecycle) (events : List SupervisorEvent) : Lifecycle :=
  events.foldl (handle capacity) o

/-- A turn of the loop takes everything that waits for it, and handles it. -/
def turned (capacity : Nat) (o : Lifecycle) : Lifecycle :=
  { o with eventLoop := o.eventLoop.cleared }.handleAll capacity o.eventLoop.waiting

theorem handle_eq (o : Lifecycle) (e : SupervisorEvent) :
    o.handle capacity e = (o.eventLoop.handle capacity e).2.foldl obey
      { o with eventLoop := (o.eventLoop.handle capacity e).1, handled := o.handled ++ [e] } := rfl

theorem eventLoop_handle (capacity : Nat) (o : Lifecycle) (e : SupervisorEvent) :
    (o.handle capacity e).eventLoop = (o.eventLoop.handle capacity e).1
      ∧ (o.handle capacity e).ordered =
        o.ordered ++ (o.eventLoop.handle capacity e).2.filterMap (·.removal?) := by
  obtain ⟨hevents, -, -, hordered⟩ := foldl_obey
    { o with eventLoop := (o.eventLoop.handle capacity e).1, handled := o.handled ++ [e] }
    (o.eventLoop.handle capacity e).2
  exact ⟨hevents, hordered⟩

theorem eventLoop_handleAll (o : Lifecycle) (events : List SupervisorEvent) :
    (o.handleAll capacity events).eventLoop = (o.eventLoop.handleAll capacity events).1
      ∧ (o.handleAll capacity events).ordered =
        o.ordered ++ (o.eventLoop.handleAll capacity events).2.filterMap (·.removal?) := by
  induction events generalizing o with
  | nil => exact ⟨rfl, (List.append_nil _).symm⟩
  | cons e events ih =>
    obtain ⟨hevents, hordered⟩ := eventLoop_handle capacity o e
    obtain ⟨hlater, hordereds⟩ := ih (o.handle capacity e)
    rw [hevents] at hlater hordereds
    refine ⟨hlater, hordereds.trans ?_⟩
    rw [hordered, List.append_assoc, ← List.filterMap_append]
    rfl

/-- A turn of the loop is the turn of the event loop, and the removals that it orders are ordered.
-/
theorem eventLoop_turned (lasting : o.eventLoop.supervisor.closed = false) :
    (o.turned capacity).eventLoop = (o.eventLoop.turn capacity).1
      ∧ (o.turned capacity).ordered =
        o.ordered ++ (o.eventLoop.turn capacity).2.filterMap (·.removal?) := by
  rw [EventLoop.turn, lasting]
  exact eventLoop_handleAll { o with eventLoop := o.eventLoop.cleared } o.eventLoop.waiting

/-- The lifecycle with something else waiting. -/
def frame (o : Lifecycle) (queue : List SupervisorEvent) (loop : LoopPhase) : Lifecycle :=
  { o with eventLoop := { o.eventLoop with queue, loop } }

theorem foldl_obey_frame (queue : List SupervisorEvent) (loop : LoopPhase) (orders : List Order)
    (o : Lifecycle) :
    orders.foldl obey (o.frame queue loop) = (orders.foldl obey o).frame queue loop := by
  induction orders generalizing o with
  | nil => rfl
  | cons x orders ih =>
    rw [List.foldl_cons, List.foldl_cons, ← ih]
    cases x <;> rfl

theorem handle_frame (o : Lifecycle) (queue : List SupervisorEvent) (loop : LoopPhase)
    (e : SupervisorEvent) :
    (o.frame queue loop).handle capacity e = (o.handle capacity e).frame queue loop := by
  have hevents := o.eventLoop.handle_frame capacity queue loop e
  rw [handle_eq, handle_eq]
  show (EventLoop.handle capacity { o.eventLoop with queue, loop } e).2.foldl obey
    { o with
      eventLoop := (EventLoop.handle capacity { o.eventLoop with queue, loop } e).1
      handled := o.handled ++ [e] } = _
  rw [hevents]
  exact foldl_obey_frame queue loop (o.eventLoop.handle capacity e).2
    { o with eventLoop := (o.eventLoop.handle capacity e).1, handled := o.handled ++ [e] }

theorem handleAll_frame (o : Lifecycle) (queue : List SupervisorEvent) (loop : LoopPhase)
    (events : List SupervisorEvent) :
    (o.frame queue loop).handleAll capacity events =
      (o.handleAll capacity events).frame queue loop := by
  induction events generalizing o with
  | nil => rfl
  | cons e events ih =>
    show ((o.frame queue loop).handle capacity e).handleAll capacity events = _
    rw [handle_frame, ih]
    rfl

theorem Goes.trans {o q r : Lifecycle} {sent more : List TokenEvent}
    (before : Goes capacity o sent q) (after : Goes capacity q more r) :
    Goes capacity o (sent ++ more) r := by
  induction before with
  | done => exact after
  | leads step _ ih => exact .leads step (ih after)
  | intervenes step _ ih => exact .intervenes step (ih after)
  | announces e _ ih => exact .announces e (ih after)

/-- The loop handles what is in the queue. -/
theorem goes_queue {bell : Mailbox ProfileEvent} {events : List SupervisorEvent}
    (loop : o.eventLoop.loop = .running bell) (queue : o.eventLoop.queue = events) :
    Goes capacity o [] ((o.frame [] o.eventLoop.loop).handleAll capacity events) := by
  induction events generalizing o with
  | nil =>
    have hsame : o.frame [] o.eventLoop.loop = o := by
      rw [← queue]
      rfl
    rw [hsame]
    exact .done
  | cons e rest ih =>
    have htakes : o.eventLoop.takeQueued? = some (e, { o.eventLoop with queue := rest }) := by
      simp only [EventLoop.takeQueued?, loop, queue]
    refine .leads (.handles htakes) ?_
    have hnext : ({ o with eventLoop := { o.eventLoop with queue := rest } }.handle capacity e) =
        (o.handle capacity e).frame rest o.eventLoop.loop := handle_frame o rest o.eventLoop.loop e
    rw [hnext]
    have hlater := ih (o := (o.handle capacity e).frame rest o.eventLoop.loop) loop rfl
    have hrest : (o.frame [] o.eventLoop.loop).handleAll capacity (e :: rest) =
        ((o.handle capacity e).frame [] o.eventLoop.loop).handleAll capacity rest :=
      congrArg (handleAll capacity · rest) (handle_frame o [] o.eventLoop.loop e)
    rw [hrest]
    exact hlater

/-- The loop handles what has been announced to it. -/
theorem goes_bell {bell : Mailbox ProfileEvent}
    {pick : Delivery ProfileEvent → Option SupervisorEvent}
    (message : ∀ e, pick (.message e) = some (.ofProfile e)) (lagged : ∀ n, pick (.lagged n) = none)
    (loop : o.eventLoop.loop = .running bell) :
    Goes capacity o [] ((o.frame o.eventLoop.queue (.running bell.drained)).handleAll capacity
      (bell.deliveries.filterMap pick)) := by
  induction hbell : bell.deliveries generalizing o bell with
  | nil =>
    have hsame : o.frame o.eventLoop.queue (.running bell.drained) = o := by
      rw [Mailbox.drained_of_deliveries hbell, ← loop]
      rfl
    rw [hsame]
    exact .done
  | cons x later ih =>
    obtain ⟨rest, htake, hrest⟩ := Mailbox.exists_take_of_deliveries hbell
    have htakes : o.eventLoop.takeAnnounced? =
        some (x, { o.eventLoop with loop := .running rest }) := by
      simp only [EventLoop.takeAnnounced?, loop, htake, Option.map_some]
    rw [← Mailbox.drained_take htake]
    cases x with
    | lagged n =>
      rw [List.filterMap_cons_none (lagged n)]
      exact .leads (.misses htakes)
        (ih (o := o.frame o.eventLoop.queue (.running rest)) rfl hrest)
    | message e =>
      rw [List.filterMap_cons_some (message e)]
      have hnext :
          { o with eventLoop := { o.eventLoop with loop := .running rest } }.handle capacity
              (.ofProfile e) =
            (o.handle capacity (.ofProfile e)).frame o.eventLoop.queue (.running rest) :=
        handle_frame o o.eventLoop.queue (.running rest) (.ofProfile e)
      have hlater : (o.frame o.eventLoop.queue (.running rest.drained)).handleAll capacity
          (.ofProfile e :: later.filterMap pick) =
          ((o.handle capacity (.ofProfile e)).frame o.eventLoop.queue
            (.running rest.drained)).handleAll capacity (later.filterMap pick) :=
        congrArg (handleAll capacity · _) (handle_frame o o.eventLoop.queue _ (.ofProfile e))
      refine .leads (.hears htakes) ?_
      rw [hnext, hlater]
      exact ih (o := (o.handle capacity (.ofProfile e)).frame o.eventLoop.queue (.running rest)) rfl
        hrest

/-- A turn of the loop comes to the same as taking one thing after the other. -/
theorem goes_turned (h : o.eventLoop.Serving capacity) :
    Goes capacity o [] (o.turned capacity) := by
  obtain ⟨-, -, bell, -, loop⟩ := h.exists_mail
  let quiet := (o.frame [] o.eventLoop.loop).handleAll capacity o.eventLoop.queue
  have hquiet : quiet = (o.handleAll capacity o.eventLoop.queue).frame [] o.eventLoop.loop :=
    handleAll_frame o [] o.eventLoop.loop o.eventLoop.queue
  have hloop : quiet.eventLoop.loop = .running bell := by
    rw [hquiet]
    exact loop
  have hframe : quiet.frame quiet.eventLoop.queue (.running bell.drained) =
      ({ o with eventLoop := o.eventLoop.cleared } : Lifecycle).handleAll capacity
        o.eventLoop.queue := by
    have hcleared : ({ o with eventLoop := o.eventLoop.cleared } : Lifecycle) =
        o.frame [] (.running bell.drained) := by
      simp only [EventLoop.cleared, loop, frame]
    rw [hcleared, handleAll_frame, hquiet]
    rfl
  obtain ⟨pick, message, lagged, hwaiting⟩ := exists_waiting loop
  have hturned : o.turned capacity =
      (({ o with eventLoop := o.eventLoop.cleared } : Lifecycle).handleAll capacity
        o.eventLoop.queue).handleAll capacity (bell.deliveries.filterMap pick) := by
    rw [turned, hwaiting, handleAll, List.foldl_append]
    rfl
  rw [hturned, ← hframe]
  exact (goes_queue loop rfl).trans (goes_bell message lagged hloop)

end Lifecycle

end SessionSync
