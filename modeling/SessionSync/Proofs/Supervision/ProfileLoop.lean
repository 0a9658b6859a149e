import SessionSync.Proofs.Supervision.Handling

/-!
# The supervisor follows the profile

What the profile announces waits in a mailbox that keeps the last few announcements only. The loop
may be late, so that any number of them is lost; what it takes last is still what was announced
last.

* `ProfileLoop` — the profile and the event loop, with what can happen to the two (`Incident`).
* `Follows` — the invariant: once everything that waits has been handled, the supervisor is where
  the profile is.
* `follows_step`, `follows_run` — one incident, and a whole run.
* `follows_profile` — so the supervisor follows the profile, however late the loop is.
-/

namespace SessionSync

/-- The profile and the event loop that follows it. -/
structure ProfileLoop where
  /-- The profile. -/
  profile : Profile
  /-- The event loop. -/
  eventLoop : EventLoop

/-- What the store and the tasks that listen to it do. -/
inductive Traffic
  /-- The store announces something. -/
  | announce (e : TokenEvent)
  /-- A listening task gets its turn. -/
  | forward (task : Nat)

/-- What can happen to the profile and the event loop. -/
inductive Incident
  /-- An account signs in. -/
  | signIn (account : AccountId)
  /-- The primary account signs out. -/
  | signOut
  /-- The store and the tasks that listen to it do something. -/
  | traffic (t : Traffic)
  /-- The loop takes one event out of its queue. -/
  | takesQueued
  /-- The loop takes one announcement, or word of lost ones. -/
  | takesAnnounced
  /-- The loop takes everything that it finds. -/
  | turn

/-- The event loop after something that the store or a listening task has done. -/
def EventLoop.carry (d : EventLoop) : Traffic → EventLoop
  | .announce e => d.announceToken e
  | .forward task => d.forward task

namespace ProfileLoop

/-- The profile changes, and announces it. -/
def change (r : ProfileLoop) (step : Profile × List ProfileEvent) : ProfileLoop :=
  ⟨step.1, step.2.foldl .announceProfile r.eventLoop⟩

/-- What happens next; a new mailbox for what the store announces keeps so many messages. -/
def step (capacity : Nat) (r : ProfileLoop) : Incident → ProfileLoop
  | .signIn a => r.change (r.profile.signIn a)
  | .signOut => r.change r.profile.signOut
  | .traffic t => { r with eventLoop := r.eventLoop.carry t }
  | .takesQueued =>
    match r.eventLoop.takeQueued? with
    | some (e, d) => { r with eventLoop := (d.handle capacity e).1 }
    | none => r
  | .takesAnnounced =>
    match r.eventLoop.takeAnnounced? with
    | some (.message e, d) => { r with eventLoop := (d.handle capacity (.ofProfile e)).1 }
    | some (.lagged _, d) => { r with eventLoop := d }
    | none => r
  | .turn => { r with eventLoop := (r.eventLoop.turn capacity).1 }

/-- What happens one after the other. -/
def run (capacity : Nat) (r : ProfileLoop) (incidents : List Incident) : ProfileLoop :=
  incidents.foldl (step capacity) r

/-- A supervisor is made for a profile, and its loop begins; the store may announce things in
between. -/
def opened (capacity : Nat) (periodic : Bool) (first : Profile) (early : List Traffic) :
    ProfileLoop :=
  ⟨first, (early.foldl .carry (EventLoop.new capacity periodic first).1).startLoop.1⟩

/-- The supervisor is where the profile is. -/
def Agrees (periodic : Bool) (r : ProfileLoop) : Prop :=
  r.eventLoop.supervisor.isListening = r.profile.isSignedIn
    ∧ r.eventLoop.supervisor.isPeriodic = (r.profile.isSignedIn && periodic)

/-- Only what comes from the store is in the queue, and once the announcements that wait have been
handled, the supervisor is where the profile is. -/
structure Follows (periodic : Bool) (r : ProfileLoop) : Prop where
  inStep : r.eventLoop.supervisor.InStep periodic
  queued : ∀ e ∈ r.eventLoop.queue, e.fromStore = true
  running : ∃ mail, r.eventLoop.loop = .running mail
    ∧ (mail.waiting.map SupervisorEvent.ofProfile).foldl SupervisorEvent.settles
      r.eventLoop.supervisor.isListening = r.profile.isSignedIn

end ProfileLoop

/-! ## The store -/

namespace EventLoop

variable {d : EventLoop}

theorem mem_passedOn {x : Delivery TokenEvent} {e : SupervisorEvent} (h : e ∈ passedOn x) :
    e.fromStore = true := by
  cases x with
  | message t =>
    rw [List.mem_singleton.1 h]
    exact SupervisorEvent.fromStore_ofToken t
  | lagged n => cases h

theorem foldl_send_eq (events : List SupervisorEvent) (d : EventLoop) :
    ∃ sent, (∀ e ∈ sent, e ∈ events)
      ∧ events.foldl (fun d e => (d.send e).1) d = { d with queue := d.queue ++ sent } := by
  induction events generalizing d with
  | nil => exact ⟨[], nofun, by simp⟩
  | cons e events ih =>
    obtain ⟨sent, hsent, heq⟩ := ih (d.send e).1
    rw [List.foldl_cons, heq]
    unfold send
    split
    · exact ⟨sent, fun e' he' => List.mem_cons_of_mem e (hsent e' he'), rfl⟩
    · refine ⟨e :: sent, fun e' he' => ?_, by simp⟩
      rcases List.mem_cons.1 he' with rfl | he'
      · exact List.mem_cons_self
      · exact List.mem_cons_of_mem e (hsent e' he')

/-- The store and the listening tasks bring only events from the store. They change neither the
supervisor nor the loop, and no task begins or ends with them. -/
theorem carry_eq (d : EventLoop) (t : Traffic) :
    ∃ listeners sent, listeners.map (·.1) = d.listeners.map (·.1)
      ∧ (∀ e ∈ sent, e.fromStore = true)
      ∧ d.carry t = { d with listeners, queue := d.queue ++ sent } := by
  cases t with
  | announce e =>
    refine ⟨(d.announceToken e).listeners, [], ?_, nofun, by simp [carry, announceToken]⟩
    simp [announceToken, Function.comp_def]
  | forward task =>
    show ∃ listeners sent, _ ∧ _ ∧ d.forward task = _
    unfold forward
    split
    · exact ⟨d.listeners, [], rfl, nofun, by simp⟩
    · next own mail hfind =>
      dsimp only
      rw [filterMap_eq_passedOn (fun _ => rfl) (fun _ => rfl)]
      obtain ⟨sent, hsent, heq⟩ := foldl_send_eq (mail.deliveries.flatMap passedOn)
        { d with
          listeners := d.listeners.map fun l => if l.1 = task then (task, mail.drained) else l }
      refine ⟨_, sent, ?_, fun e he => ?_, heq⟩
      · rw [List.map_map]
        refine List.map_congr_left fun l _ => ?_
        by_cases hl : l.1 = task <;> simp [hl]
      · obtain ⟨x, -, hx⟩ := List.mem_flatMap.1 (hsent e he)
        exact mem_passedOn hx

theorem foldl_carry_eq (early : List Traffic) (d : EventLoop) :
    ∃ listeners sent, (∀ e ∈ sent, e.fromStore = true)
      ∧ early.foldl .carry d = { d with listeners, queue := d.queue ++ sent } := by
  induction early generalizing d with
  | nil => exact ⟨d.listeners, [], nofun, by simp⟩
  | cons t early ih =>
    obtain ⟨listeners, sent, -, hsent, heq⟩ := d.carry_eq t
    obtain ⟨listeners', sent', hsent', heq'⟩ := ih (d.carry t)
    refine ⟨listeners', sent ++ sent', fun e he => ?_, ?_⟩
    · rcases List.mem_append.1 he with he | he
      · exact hsent e he
      · exact hsent' e he
    · rw [List.foldl_cons, heq', heq]
      simp

/-! ## The loop -/

/-- The supervisor stays in step while events are handled, and the last one decides whether it
listens. -/
theorem handleAll_inStep {periodic : Bool} (capacity : Nat) (events : List SupervisorEvent)
    (h : d.supervisor.InStep periodic) :
    ∃ supervisor listeners, supervisor.InStep periodic
      ∧ supervisor.isListening = events.foldl SupervisorEvent.settles d.supervisor.isListening
      ∧ (d.handleAll capacity events).1 = { d with supervisor, listeners } := by
  induction events generalizing d with
  | nil => exact ⟨d.supervisor, d.listeners, h, rfl, rfl⟩
  | cons e events ih =>
    obtain ⟨hinStep, hlistening⟩ := h.handle e
    have hfirst := handle_fst capacity d e
    have hnext : (d.handle capacity e).1.supervisor.InStep periodic := by
      rw [hfirst]
      exact hinStep
    obtain ⟨supervisor, listeners, hlast, hlistens, heq⟩ := ih hnext
    refine ⟨supervisor, listeners, hlast, ?_, ?_⟩
    · rw [hlistens, hfirst, List.foldl_cons, ← hlistening]
    · show ((d.handle capacity e).1.handleAll capacity events).1 = _
      rw [heq, hfirst]

end EventLoop

/-! ## The profile -/

/-- What is announced last is kept, whatever is lost. -/
theorem Mailbox.exists_waiting_post (m : Mailbox α) (a : α) :
    ∃ kept, (m.post a).waiting = kept ++ [a] := by
  unfold post
  split
  · exact ⟨m.waiting, rfl⟩
  · exact ⟨m.waiting.drop 1, rfl⟩

namespace ProfileLoop

variable {capacity : Nat} {periodic : Bool} {r : ProfileLoop}

/-- Whatever waits, what is announced now decides. -/
theorem Follows.announce (h : r.Follows periodic) (e : ProfileEvent) {p : Profile}
    (settles : ∀ on, (SupervisorEvent.ofProfile e).settles on = p.isSignedIn) :
    Follows periodic ⟨p, r.eventLoop.announceProfile e⟩ := by
  obtain ⟨mail, hloop, -⟩ := h.running
  have hevents : r.eventLoop.announceProfile e =
      { r.eventLoop with loop := .running (mail.post e) } := by
    unfold EventLoop.announceProfile
    rw [hloop]
  rw [hevents]
  refine ⟨h.inStep, h.queued, mail.post e, rfl, ?_⟩
  obtain ⟨kept, hkept⟩ := mail.exists_waiting_post e
  rw [hkept, List.map_append, List.foldl_append]
  exact settles _

theorem Follows.signIn (h : r.Follows periodic) (a : AccountId) :
    (r.change (r.profile.signIn a)).Follows periodic :=
  h.announce (.signedIn a) fun _ => rfl

/-- Signing out is announced unless nobody was signed in, and then it changes nothing. -/
theorem Follows.signOut (h : r.Follows periodic) :
    (r.change r.profile.signOut).Follows periodic := by
  cases hprimary : r.profile.primary with
  | some a =>
    have hchange : r.change r.profile.signOut =
        ⟨⟨none⟩, r.eventLoop.announceProfile (.signedOut a)⟩ := by
      simp [change, Profile.signOut, hprimary]
    rw [hchange]
    exact h.announce (.signedOut a) fun _ => rfl
  | none =>
    have hchange : r.change r.profile.signOut = ⟨⟨none⟩, r.eventLoop⟩ := by
      simp [change, Profile.signOut, hprimary]
    have hsame : r.profile = ⟨none⟩ := by rw [← hprimary]
    rw [hchange, ← hsame]
    exact h

theorem Follows.carry (h : r.Follows periodic) (t : Traffic) :
    Follows periodic { r with eventLoop := r.eventLoop.carry t } := by
  obtain ⟨listeners, sent, -, hsent, heq⟩ := r.eventLoop.carry_eq t
  rw [heq]
  refine ⟨h.inStep, fun e he => ?_, h.running⟩
  rcases List.mem_append.1 he with he | he
  · exact h.queued e he
  · exact hsent e he

/-- An event that has been taken is handled; what the supervisor then comes to is what it would have
come to with the event still waiting. -/
theorem Follows.handled {eventLoop : EventLoop} {e : SupervisorEvent} {mail : Mailbox ProfileEvent}
    (inStep : eventLoop.supervisor.InStep periodic)
    (queued : ∀ e' ∈ eventLoop.queue, e'.fromStore = true)
    (loop : eventLoop.loop = .running mail)
    (last : (mail.waiting.map SupervisorEvent.ofProfile).foldl SupervisorEvent.settles
      (e.settles eventLoop.supervisor.isListening) = r.profile.isSignedIn) :
    Follows periodic { r with eventLoop := (eventLoop.handle capacity e).1 } := by
  obtain ⟨hinStep, hlistening⟩ := inStep.handle e
  rw [EventLoop.handle_fst]
  exact ⟨hinStep, queued, mail, loop, by rw [hlistening]; exact last⟩

theorem Follows.takesQueued (h : r.Follows periodic) :
    (r.step capacity .takesQueued).Follows periodic := by
  unfold step
  cases htakes : r.eventLoop.takeQueued? with
  | none => exact h
  | some pair =>
    obtain ⟨e, d⟩ := pair
    obtain ⟨rest, hqueue, rfl⟩ := EventLoop.takeQueued?_eq_some htakes
    obtain ⟨mail, hloop, hlast⟩ := h.running
    have hqueued : ∀ e' ∈ e :: rest, e'.fromStore = true := hqueue ▸ h.queued
    have hsettles := SupervisorEvent.settles_of_fromStore (hqueued e List.mem_cons_self)
      r.eventLoop.supervisor.isListening
    refine Follows.handled h.inStep (fun e' he' => hqueued e' (List.mem_cons_of_mem e he')) hloop ?_
    rw [hsettles]
    exact hlast

theorem Follows.takesAnnounced (h : r.Follows periodic) :
    (r.step capacity .takesAnnounced).Follows periodic := by
  unfold step
  cases htakes : r.eventLoop.takeAnnounced? with
  | none => exact h
  | some pair =>
    obtain ⟨x, d⟩ := pair
    obtain ⟨mail, hloop, hlast⟩ := h.running
    obtain ⟨rest, htake, rfl⟩ := EventLoop.takeAnnounced?_eq_some hloop htakes
    obtain ⟨-, ⟨e, rfl, hwaiting⟩ | ⟨⟨n, rfl⟩, hwaiting⟩⟩ := Mailbox.waiting_take htake
    · rw [hwaiting] at hlast
      exact Follows.handled h.inStep h.queued rfl hlast
    · rw [← hwaiting] at hlast
      exact ⟨h.inStep, h.queued, rest, rfl, hlast⟩

/-- After a turn of the loop nothing waits, and the supervisor is where the profile is. -/
theorem Follows.turn (h : r.Follows periodic) (capacity : Nat) :
    (r.step capacity .turn).Follows periodic
      ∧ (r.step capacity .turn).eventLoop.waiting = []
      ∧ (r.step capacity .turn).Agrees periodic := by
  obtain ⟨mail, hloop, hlast⟩ := h.running
  have hcleared : r.eventLoop.cleared =
      { r.eventLoop with queue := [], loop := .running mail.drained } := by
    simp only [EventLoop.cleared, hloop]
  have hturn : (r.eventLoop.turn capacity).1 =
      (r.eventLoop.cleared.handleAll capacity r.eventLoop.waiting).1 := by
    rw [EventLoop.turn, h.inStep.lasting]
    rfl
  obtain ⟨supervisor, listeners, hinStep, hlistening, heq⟩ :=
    EventLoop.handleAll_inStep (d := r.eventLoop.cleared) capacity r.eventLoop.waiting (by
      rw [hcleared]
      exact h.inStep)
  have hsignedIn : supervisor.isListening = r.profile.isSignedIn := by
    rw [hlistening, hcleared, EventLoop.waiting_of_running hloop, List.foldl_append,
      SupervisorEvent.foldl_settles_of_fromStore h.queued]
    exact hlast
  have hafter : r.step capacity .turn = { r with eventLoop :=
      { r.eventLoop with supervisor, listeners, queue := [], loop := .running mail.drained } } := by
    unfold step
    rw [hturn, heq, hcleared]
  rw [hafter]
  refine ⟨⟨hinStep, by rintro _ ⟨⟩, mail.drained, rfl, hsignedIn⟩, ?_, hsignedIn, ?_⟩
  · have hdrained : mail.drained.waiting = [] := rfl
    rw [EventLoop.waiting_of_running rfl, hdrained]
    rfl
  · exact hinStep.inStep.trans (congrArg (· && periodic) hsignedIn)

theorem follows_step (h : r.Follows periodic) (i : Incident) :
    (r.step capacity i).Follows periodic := by
  cases i with
  | signIn a => exact h.signIn a
  | signOut => exact h.signOut
  | traffic t => exact h.carry t
  | takesQueued => exact h.takesQueued
  | takesAnnounced => exact h.takesAnnounced
  | turn => exact (h.turn capacity).1

theorem follows_run (h : r.Follows periodic) (incidents : List Incident) :
    (r.run capacity incidents).Follows periodic := by
  induction incidents generalizing r with
  | nil => exact h
  | cons i incidents ih => exact ih (follows_step h i)

theorem follows_opened (capacity : Nat) (periodic : Bool) (first : Profile) (early : List Traffic) :
    (opened capacity periodic first early).Follows periodic := by
  obtain ⟨hinStep, hlistening⟩ := Supervisor.inStep_new periodic first
  obtain ⟨listeners, sent, hsent, heq⟩ :=
    EventLoop.foldl_carry_eq early (EventLoop.new capacity periodic first).1
  rw [EventLoop.new_fst] at heq
  have hopened : opened capacity periodic first early = ⟨first,
      { supervisor := (Supervisor.new periodic first).1
        listeners
        queue := [] ++ sent
        loop := .running (.empty Profile.announcementsKept) }⟩ := by
    unfold opened
    rw [EventLoop.new_fst, heq]
    rfl
  rw [hopened]
  exact ⟨hinStep, by simpa using hsent, _, rfl, hlistening⟩

/-- With nothing but events from the store left to handle, the supervisor is where the profile is.
-/
theorem Follows.agrees (h : r.Follows periodic)
    (handled : ∀ e ∈ r.eventLoop.waiting, e.fromStore = true) : r.Agrees periodic := by
  obtain ⟨mail, hloop, hlast⟩ := h.running
  rw [EventLoop.waiting_of_running hloop] at handled
  have hannounced : ∀ e ∈ mail.waiting.map SupervisorEvent.ofProfile, e.fromStore = true :=
    fun e he => handled e (List.mem_append_right _ he)
  have hstill :=
    SupervisorEvent.foldl_settles_of_fromStore hannounced r.eventLoop.supervisor.isListening
  have hsignedIn : r.eventLoop.supervisor.isListening = r.profile.isSignedIn :=
    hstill.symm.trans hlast
  exact ⟨hsignedIn, h.inStep.inStep.trans (congrArg (· && periodic) hsignedIn)⟩

/-- A supervisor is made and its loop begins, for any profile. Then accounts sign in and out in any
way, the store announces things, and the loop takes what it finds, one thing at a time or everything
at once, as often and as late as may be. Whenever nothing waits for the loop any more, or nothing
but events from the store, the supervisor listens to the store exactly if somebody is signed in, and
has passes made periodically exactly if that is enabled, too. A turn of the loop always leads there.
-/
theorem follows_profile (capacity : Nat) (periodic : Bool) (first : Profile) (early : List Traffic)
    (incidents : List Incident) :
    let r := (opened capacity periodic first early).run capacity incidents
    let s := r.eventLoop.supervisor
    let after := (r.eventLoop.turn capacity).1
    ((∀ e ∈ r.eventLoop.waiting, e.fromStore = true) →
        s.isListening = r.profile.isSignedIn
          ∧ s.isPeriodic = (r.profile.isSignedIn && periodic))
      ∧ after.waiting = []
      ∧ after.supervisor.isListening = r.profile.isSignedIn
      ∧ after.supervisor.isPeriodic = (r.profile.isSignedIn && periodic) := by
  intro r s after
  have hfollows : r.Follows periodic :=
    follows_run (follows_opened capacity periodic first early) incidents
  obtain ⟨-, hwaiting, hlistening, hperiodic⟩ := hfollows.turn capacity
  exact ⟨hfollows.agrees, hwaiting, hlistening, hperiodic⟩

end ProfileLoop

end SessionSync
