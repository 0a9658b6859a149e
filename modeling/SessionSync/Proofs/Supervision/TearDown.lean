import SessionSync.Proofs.Supervision.Closing

/-!
# What is left after a tear-down

Signing out ends the tasks of the supervisor and gives up the pass in flight, and so does shutting
everything down. A removal is not given up: one that was ordered begins later, and one that has
begun ends later.

* `PassesSilenced` — passes that were under way have the agent told nothing.
* `Deserted.run` — with nobody signed in, nothing that was on its way orders a removal, and no pass
  has anything carried out.
* `tear_down_spares_removals` — what the agent is still told after a tear-down.
* `removal_outlives_tear_down` — it is told that a removal ends.
-/

namespace SessionSync

namespace Daemon

variable {capacity : Nat} {p q : Daemon} {d : Doing}

/-! ## Passes that are given up -/

/-- From here on the passes that are under way have the agent told nothing. -/
def PassesSilenced (capacity : Nat) (p : Daemon) : Prop :=
  ∀ f n, p.coordinator.role? f = some (.pass n) → ∀ later held (e : CoordinatorEvent),
    e.target? = some f →
      ((p.run capacity later).undergo capacity (.happen held e)).told = (p.run capacity later).told

theorem passesSilenced_of_idle (h : p.coordinator.Coherent)
    (idle : p.coordinator.state.started = false) : p.PassesSilenced capacity := by
  intro f n role later held e target
  have hnot : ¬ p.coordinator.Current f := fun hcurrent => by
    rw [hcurrent.1] at idle
    cases idle
  have hinert := Coordinator.stale_run h role hnot (p.momentsIn capacity later)
    (m := ⟨(p.run capacity later).surroundings held, e⟩) target
  have htold := (coordinator_undergo capacity (p.run capacity later) (.happen held e)).2
  rw [(coordinator_run capacity p later).1] at htold
  rw [htold, moments, Coordinator.toldIn, hinert.2]
  exact List.append_nil _

theorem idle_of_abort (c : Coordinator) : c.abort.state.started = false := by
  unfold Coordinator.abort
  split
  · rfl
  · next hs => simpa using hs

/-! ## Nobody is signed in -/

theorem primary_of_moments {m : Moment} (h : m ∈ p.moments d) :
    m.surroundings.primary = p.profile.primary := by
  unfold moments at h
  split at h
  · split at h
    · rw [List.mem_singleton.1 h]
      rfl
    · cases h
  · rw [Option.mem_toList] at h
    obtain ⟨a, -, rfl⟩ := Option.map_eq_some_iff.1 h
    rfl
  · rw [List.mem_singleton.1 h]
    rfl
  · rw [List.mem_singleton.1 h]
    rfl
  · obtain ⟨e, -, rfl⟩ := List.mem_map.1 h
    rfl

/-- Nobody is signed in, and the supervisor does not listen to the store. -/
structure Deserted (p : Daemon) : Prop where
  primary : p.profile.primary = none
  deaf : p.eventLoop.supervisor.listener = none

/-- Nobody signs in, and the supervisor handles no word of it. -/
def Away (p : Daemon) (d : Doing) : Prop :=
  (∀ a, d ≠ .signIn a) ∧ ∀ a, p.handles? d ≠ some (.signedIn a)

/-- Until the end nobody signs in. -/
def Unattended (capacity : Nat) (p : Daemon) : List Doing → Prop
  | [] => True
  | d :: later => p.Away d ∧ (p.undergo capacity d).Unattended capacity later

theorem Deserted.undergo (capacity : Nat) (h : p.Deserted) (away : p.Away d) :
    (p.undergo capacity d).Deserted := by
  have course := course_undergo capacity p d
  generalize p.undergo capacity d = q at course
  cases course with
  | @handles d e eventLoop event alike =>
    have hdeaf : eventLoop.supervisor.listener = none := by rw [alike.supervisor, h.deaf]
    refine ⟨h.primary, ?_⟩
    rw [supervisor_handle]
    exact (Supervisor.handle_of_deaf hdeaf fun a ha => away.2 a (ha ▸ event)).1
  | ticks | begins | happens | endsTimer => exact ⟨h.primary, h.deaf⟩
  | cancels => exact ⟨h.primary, h.deaf⟩
  | stops =>
    refine ⟨h.primary, ?_⟩
    rw [EventLoop.foldl_obey_eq]
    rfl
  | startsLoop =>
    refine ⟨h.primary, ?_⟩
    unfold EventLoop.startLoop
    split <;> exact h.deaf
  | moves quiet moments asked alike signedOut =>
    exact ⟨signedOut away.1 h.primary, by rw [alike.supervisor]; exact h.deaf⟩

/-- While nobody is signed in, no event that is handled orders a removal. -/
theorem Deserted.called (h : p.Deserted) (away : p.Away d) : p.called d = d.asked := by
  unfold Daemon.called
  cases hevent : p.handles? d with
  | none => rw [orders_of_quiet hevent, List.filterMap_nil, List.append_nil]
  | some e =>
    have hquiet := Supervisor.handle_of_deaf h.deaf fun a ha => away.2 a (ha ▸ hevent)
    rw [orders_of_handles hevent, hquiet.2, List.append_nil]

theorem Deserted.run (h : p.Deserted) {later : List Doing}
    (unattended : p.Unattended capacity later) :
    p.calledIn capacity later = later.flatMap (·.asked)
      ∧ ∀ m ∈ p.momentsIn capacity later, m.surroundings.primary = none := by
  induction later generalizing p with
  | nil => exact ⟨rfl, fun _ hm => absurd hm List.not_mem_nil⟩
  | cons d later ih =>
    obtain ⟨away, hlater⟩ := unattended
    obtain ⟨hcalled, hprimary⟩ := ih (h.undergo capacity away) hlater
    refine ⟨by rw [calledIn, h.called away, hcalled]; rfl, fun m hm => ?_⟩
    rcases List.mem_append.1 hm with hm | hm
    · rw [primary_of_moments hm, h.primary]
    · exact hprimary m hm

/-- When the supervisor handles that somebody has signed out, the pass in flight is given up, and
the supervisor listens no longer. -/
theorem undergo_signedOut (capacity : Nat) (signedOut : p.handles? d = some .signedOut) :
    (p.undergo capacity d).coordinator = p.coordinator.abort
      ∧ (p.profile.primary = none → (p.undergo capacity d).Deserted) := by
  have hfirst := (coordinator_undergo capacity p d).1
  obtain ⟨eventLoop, hundergo, alike, hmoments, -⟩ := undergo_of_handles capacity signedOut
  rw [hmoments, orders_of_handles signedOut,
    Supervisor.filterMap_signedOut (fun _ => rfl) fun _ => rfl] at hfirst
  refine ⟨hfirst, fun away => ?_⟩
  rw [hundergo]
  exact ⟨away, by rw [supervisor_handle]; rfl⟩

/-! ## What is left -/

/-- A removal that was ordered may begin, and one that is under way may end. -/
theorem exists_telling (capacity : Nat) (h : p.coordinator.Coherent)
    (left : ¬ (p.ordered = [] ∧ p.coordinator.removing = [])) :
    ∃ d : Doing, d.isFresh = false ∧ p.Away d ∧ (p.undergo capacity d).told ≠ p.told := by
  cases hordered : p.ordered with
  | cons a rest =>
    refine ⟨.begin 0 [], rfl, ⟨by rintro _ ⟨⟩, by rintro _ ⟨⟩⟩, fun htold => ?_⟩
    rw [(coordinator_undergo capacity p _).2, List.append_right_eq_self, moments, hordered] at htold
    cases htold
  | nil =>
    have hremoving : p.coordinator.removing ≠ [] := fun hnil => left ⟨hordered, hnil⟩
    obtain ⟨a, ha⟩ := List.exists_mem_of_ne_nil _ hremoving
    obtain ⟨f, hf⟩ := (Coordinator.mem_removing h).1 ha
    obtain ⟨fl, hflow, hrole⟩ := Option.map_eq_some_iff.1 hf
    cases fl with
    | removal b =>
      refine ⟨.happen [] (.listed f (.error (.network ""))), rfl,
        ⟨by rintro _ ⟨⟩, by rintro _ ⟨⟩⟩, fun htold => ?_⟩
      rw [(coordinator_undergo capacity p _).2, List.append_right_eq_self] at htold
      simp only [moments, Coordinator.toldIn, Coordinator.react, Coordinator.step,
        Coordinator.listed_of_removal hflow] at htold
      cases htold
    | queued | pass | reading | checking => cases hrole

/-- What the agent is told is about removals, unless it is to carry something out. -/
theorem Accounted.eq_nil {called : List AccountId} {new : List Instruction}
    (h : Accounted p q called new) (quiet : ∀ action, .perform action ∉ new)
    (none : p.ordered = [] ∧ p.coordinator.removing = []) (uncalled : called = []) : new = [] := by
  have hbegun := h.begun
  rw [none.1, uncalled] at hbegun
  have hbegun := (List.append_eq_nil_iff.1 hbegun.eq_nil).1
  have hended := h.ended
  rw [none.2, hbegun] at hended
  have hended := (List.append_eq_nil_iff.1 hended.eq_nil).1
  refine List.eq_nil_iff_forall_not_mem.2 fun x hx => ?_
  cases x with
  | perform action => exact quiet action hx
  | startRemoval a => cases List.filterMap_eq_nil_iff.1 hbegun _ hx
  | finishRemoval a session => cases List.filterMap_eq_nil_iff.1 hended _ hx

/-- In every run: after the supervisor has handled that somebody has signed out, with nobody signed
in, and until somebody signs in, the agent is told of the beginning and of the end of removals only.
They are those that were ordered or under way at that time, and those asked for since; so nothing is
left of earlier work exactly when there are none of the former. After everything has been shut down
no task takes up anything any more, and the passes that were under way when that was begun have the
agent told nothing; again what is left are the removals that are ordered or under way, and a pass
that was begun while the end of the tasks was waited for. -/
theorem tear_down_spares_removals (capacity : Nat) (periodic : Bool) (first : Profile)
    (early : List Moment) (past : List Doing) :
    let p := (opened capacity periodic first early).run capacity past
    (∀ d, p.handles? d = some .signedOut → p.profile.primary = none →
        let q := p.undergo capacity d
        q.PassesSilenced capacity
          ∧ (∀ later, q.Unattended capacity later →
              ∃ new, Accounted q (q.run capacity later) (later.flatMap (·.asked)) new
                ∧ ∀ action, .perform action ∉ new)
          ∧ ((∀ later, q.Unattended capacity later → later.flatMap (·.asked) = [] →
                (q.run capacity later).told = q.told)
              ↔ q.ordered = [] ∧ q.coordinator.removing = []))
      ∧ ∀ q, p.ShutDown capacity q →
          (p.undergo capacity .cancel).PassesSilenced capacity
            ∧ (∀ later, .startLoop ∉ later →
                let r := q.run capacity later
                r.eventLoop.listeners = [] ∧ r.undergo capacity .takeQueued = r
                  ∧ r.undergo capacity .takeAnnounced = r
                  ∧ (∀ n ∉ q.timers, r.undergo capacity (.tick n) = r)
                  ∧ ∃ new, Accounted q r (q.calledIn capacity later) new)
            ∧ (q.timers = [] → q.coordinator.state.started = false →
                ((∀ later, (∀ d ∈ later, d.isFresh = false) →
                    (q.run capacity later).told = q.told)
                  ↔ q.ordered = [] ∧ q.coordinator.removing = [])) := by
  intro p
  have hp : p.coordinator.Coherent :=
    coherent_run capacity (coherent_opened capacity periodic first early) past
  have housed : p.Housed := (housed_opened capacity periodic first early).run capacity past
  refine ⟨fun d signedOut away => ?_, fun q shutDown => ?_⟩
  · intro q
    have hq : q.coordinator.Coherent := coherent_run capacity hp [d]
    obtain ⟨hcoordinator, hdeserted⟩ := undergo_signedOut capacity signedOut
    have hidle : q.coordinator.state.started = false := by
      rw [hcoordinator]
      exact idle_of_abort _
    have accounted : ∀ later, q.Unattended capacity later →
        ∃ new, Accounted q (q.run capacity later) (later.flatMap (·.asked)) new
          ∧ ∀ action, .perform action ∉ new := by
      intro later unattended
      obtain ⟨hcalled, hprimary⟩ := (hdeserted away).run unattended
      exact ⟨_, hcalled ▸ accounted_run capacity hq later,
        Coordinator.perform_notMem_toldIn hprimary⟩
    refine ⟨passesSilenced_of_idle hq hidle, accounted, fun silent => ?_,
      fun none later unattended unasked => ?_⟩
    · by_contra left
      obtain ⟨d', old, away', htells⟩ := exists_telling capacity hq left
      exact htells (silent [d'] ⟨away', trivial⟩ (by simp [Doing.asked_of_old old]))
    · obtain ⟨new, haccounted, hquiet⟩ := accounted later unattended
      rw [haccounted.told, haccounted.eq_nil hquiet none unasked, List.append_nil]
  · have hq : q.coordinator.Coherent := shutDown.coherent hp
    have hover : q.Over := shutDown.over housed
    refine ⟨passesSilenced_of_idle (coherent_run capacity hp [.cancel]) (idle_of_abort _),
      fun later other => ?_, fun timers idle => ⟨fun silent => ?_, fun none later old => ?_⟩⟩
    · obtain ⟨hlater, htimers⟩ := hover.run capacity other
      obtain ⟨hqueued, hannounced⟩ := hlater.undergo_take capacity
      exact ⟨hlater.listeners, hqueued, hannounced,
        fun n hn => if_neg fun running => hn (htimers n running), _,
        accounted_run capacity hq later⟩
    · by_contra left
      obtain ⟨d, old, -, htells⟩ := exists_telling capacity hq left
      exact htells (silent [d] fun d' hd' => List.mem_singleton.1 hd' ▸ old)
    · have hsilent : q.Silent := ⟨hover, hq, timers, none.1, idle, none.2⟩
      exact hsilent.run old

/-- A run in which nothing is left when the primary signs out: the pass of the timer has been
started, and word of a revocation is still in the queue. -/
def signedOutInPass : List Doing :=
  [.startLoop, .tick 1, .happen [] (.launch 0), .announce (.revoked ⟨"b"⟩), .forward 0, .signOut]

theorem silent_after_tear_down :
    let p := (opened 16 true ⟨some ⟨"a"⟩⟩ []).run 16 signedOutInPass
    let q := p.undergo 16 .takeAnnounced
    let r := p.run 16 [.cancel, .stop, .endTimer 1, .endLoop]
    (p.handles? .takeAnnounced = some .signedOut ∧ p.profile.primary = none)
      ∧ (q.eventLoop.queue = [.revoked ⟨"b"⟩] ∧ q.PassesSilenced 16)
      ∧ (∀ later, q.Unattended 16 later → later.flatMap (·.asked) = [] →
          (q.run 16 later).told = q.told)
      ∧ p.ShutDown 16 r
      ∧ ∀ later, (∀ d ∈ later, d.isFresh = false) → (r.run 16 later).told = r.told := by
  intro p q r
  have hsignedOut : p.handles? .takeAnnounced = some .signedOut := by decide +kernel
  have haway : p.profile.primary = none := by decide +kernel
  have hended : r.eventLoop.loop = .ended := by decide +kernel
  have hshutDown : p.ShutDown 16 r :=
    ⟨[], [.endTimer 1, .endLoop], rfl, by rintro n ⟨⟩; decide +kernel, by rw [hended]; nofun⟩
  obtain ⟨hleft, hover⟩ := tear_down_spares_removals 16 true ⟨some ⟨"a"⟩⟩ [] signedOutInPass
  obtain ⟨hsilenced, -, hquiet⟩ := hleft .takeAnnounced hsignedOut haway
  obtain ⟨-, -, hend⟩ := hover r hshutDown
  exact ⟨⟨hsignedOut, haway⟩, ⟨by decide +kernel, hsilenced⟩,
    hquiet.2 ⟨by decide +kernel, by decide +kernel⟩, hshutDown,
    (hend (by decide +kernel) (by decide +kernel)).2 ⟨by decide +kernel, by decide +kernel⟩⟩

/-- A run in which a removal has begun when the primary signs out. -/
def signedOutInRemoval : List Doing :=
  [.startLoop, .announce (.revoked ⟨"b"⟩), .forward 0, .takeQueued, .begin 0 [], .signOut]

/-- A tear-down does not silence a removal that is under way: the agent is told of its end after the
supervisor has handled that the primary has signed out, and also after everything has been shut
down. Nor does shutting down silence a pass that a timer starts when it has been told to end. -/
theorem removal_outlives_tear_down :
    let p := (opened 16 false ⟨some ⟨"a"⟩⟩ []).run 16 signedOutInRemoval
    let q := p.undergo 16 .takeAnnounced
    let r := p.run 16 [.cancel, .stop, .endLoop]
    let arrives : List Doing := [.happen [] (.listed 0 (.ok "[0,[]]"))]
    (p.handles? .takeAnnounced = some .signedOut ∧ p.profile.primary = none)
      ∧ (q.Unattended 16 arrives ∧ arrives.flatMap (·.asked) = [])
      ∧ q.told.filterMap (·.removed?) = []
      ∧ (q.run 16 arrives).told.filterMap (·.removed?) = [⟨"b"⟩]
      ∧ p.ShutDown 16 r
      ∧ (∀ d ∈ arrives, d.isFresh = false)
      ∧ r.told.filterMap (·.removed?) = []
      ∧ (r.run 16 arrives).told.filterMap (·.removed?) = [⟨"b"⟩]
      ∧ let p := opened 16 true ⟨some ⟨"a"⟩⟩ []
        let r := p.run 16 [.cancel, .tick 1, .stop, .endTimer 1, .endLoop]
        p.ShutDown 16 r ∧ r.told.length = 0
          ∧ (r.run 16 [.happen [] (.launch 0),
              .happen [] (.listed 0 (.ok "[0,[[0,0,0,\"a\"]]]"))]).told.length = 1 := by
  intro p q r arrives
  have hended : r.eventLoop.loop = .ended := by decide +kernel
  refine ⟨⟨by decide +kernel, by decide +kernel⟩, ⟨⟨⟨nofun, nofun⟩, trivial⟩, rfl⟩,
    by decide +kernel, by decide +kernel, ⟨[], [.endLoop], rfl, nofun, by rw [hended]; nofun⟩,
    by simp [arrives, Doing.isFresh], by decide +kernel, by decide +kernel, ?_⟩
  intro p r
  have hstill : r.eventLoop.loop = .notStarted := by decide +kernel
  exact ⟨⟨[.tick 1], [.endTimer 1, .endLoop], rfl, by rintro n ⟨⟩; decide +kernel,
    by rw [hstill]; nofun⟩, by decide +kernel, by decide +kernel⟩

end Daemon

end SessionSync
