import SessionSync.Proofs.Pass.FlowTurns

/-!
# A pass in flight waits for an answer

A pass is in flight until its last answer has arrived, or until it is given up. That is of use only
if a pass cannot stay in flight with nothing left to wait for: then no other would ever be started.

* `unanswered` — what has been asked for in a run and not been answered, told from the requests and
  the events alone.
* `Turn.mem_awaits` — what one moment does to the requests of a flow.
* `mem_unanswered` — in every run, what is unanswered is what the flows wait for.
* `never_stuck` — so a pass in flight waits for its turn or for an answer.
-/

namespace SessionSync.Coordinator

/-- What is unanswered after a run: what was asked for and has not been answered since. -/
def unanswered (c : Coordinator) (asked : List Request) : List Moment → List Request
  | [] => asked
  | m :: ms =>
    unanswered (c.react m).coordinator
      (asked.filter (fun q => !m.event.answers q) ++ (c.react m).requests) ms

/-! ## The requests of a flow -/

section

variable {c : Coordinator} {m : Moment} {f : Nat} {fl : Flow} {a : AccountId} {k : Check}

/-- With what a check waits for, all that its flow has asked for about the account is answered, and
nothing else. -/
theorem mem_awaits_filter (sound : fl.Sound) (due : (a, k) ∈ fl.checksDue)
    (subject : m.event.subject? = some (f, a))
    (answers : m.event.answers (k.request f a) = true) (q : Request) :
    q ∈ (fl.withChecks (fl.checksDue.filter (·.1 ≠ a))).awaits f
      ↔ q ∈ fl.awaits f ∧ m.event.answers q = false := by
  have hlist : m.event.answers (.list f) = false := by
    cases hevent : m.event <;> simp_all [CoordinatorEvent.subject?, CoordinatorEvent.answers]
  have hrest : ∀ b k', (b, k') ∈ fl.checksDue →
      (m.event.answers (k'.request f b) = false ↔ b ≠ a) := by
    intro b k' hk'
    constructor
    · rintro hnot rfl
      rw [sound.uniform b k' k hk' due, answers] at hnot
      cases hnot
    · intro hb
      rw [← Bool.not_eq_true]
      exact fun h => hb (Check.answers_request subject h)
  rw [Flow.mem_awaits, Flow.mem_awaits, Flow.listDue_withChecks,
    Flow.checksDue_withChecks (List.ne_nil_of_mem due)]
  constructor
  · rintro (⟨hdue, rfl⟩ | ⟨b, k', hk', rfl⟩)
    · exact ⟨.inl ⟨hdue, rfl⟩, hlist⟩
    · obtain ⟨hmem, hb⟩ := List.mem_filter.1 hk'
      exact ⟨.inr ⟨b, k', hmem, rfl⟩, (hrest b k' hmem).2 (by simpa using hb)⟩
  · rintro ⟨⟨hdue, rfl⟩ | ⟨b, k', hk', rfl⟩, hnot⟩
    · exact .inl ⟨hdue, rfl⟩
    · have hb := (hrest b k' hk').1 hnot
      exact .inr ⟨b, k', List.mem_filter.2 ⟨hk', by simpa using hb⟩, rfl⟩

/-- With an access token given, its owner is waited for instead. -/
theorem mem_awaits_advanced {token : String} (due : (a, .minting) ∈ fl.checksDue) (q : Request) :
    q ∈ (fl.withChecks (advanced fl.checksDue a token)).awaits f
      ↔ q ∈ (fl.withChecks (fl.checksDue.filter (·.1 ≠ a))).awaits f ∨ q = .identify f a token := by
  have hne := List.ne_nil_of_mem due
  rw [Flow.mem_awaits, Flow.mem_awaits, Flow.checksDue_withChecks hne,
    Flow.checksDue_withChecks hne]
  simp only [Flow.listDue_withChecks, mem_advanced_iff due, List.mem_filter, or_assoc]
  refine or_congr_right ?_
  constructor
  · rintro ⟨b, k, hk | ⟨hk, hb⟩, rfl⟩
    · cases hk
      exact .inr rfl
    · exact .inl ⟨b, k, ⟨hk, by simpa using hb⟩, rfl⟩
  · rintro (⟨b, k, ⟨hk, hb⟩, rfl⟩ | rfl)
    · exact ⟨b, k, .inr ⟨hk, by simpa using hb⟩, rfl⟩
    · exact ⟨a, .identifying token, .inl rfl, rfl⟩

/-- A flow that waited for the account list alone waits for nothing more. -/
theorem not_mem_awaits_of_listed {answer : Except CallError String}
    (event : m.event = .listed f answer) (checks : fl.checksDue = []) {q : Request}
    (hq : q ∈ fl.awaits f) : m.event.answers q ≠ false := by
  rcases Flow.mem_awaits.1 hq with ⟨-, rfl⟩ | ⟨a, k, hk, -⟩
  · simp [event, CoordinatorEvent.answers]
  · rw [checks] at hk
    cases hk

/-- What a flow waits for after a moment: what it waited for and has not got, and what has been
asked for at the moment. -/
theorem Turn.mem_awaits {after : Option Flow} (h : Turn c m f fl after) (sound : fl.Sound)
    (q : Request) :
    q ∈ awaitsOf f after
      ↔ (q ∈ fl.awaits f ∧ m.event.answers q = false) ∨ q ∈ (c.react m).requests := by
  have hdone : ∀ fl' : Flow, q ∈ awaitsOf f fl'.unlessDone ↔ q ∈ fl'.awaits f := by
    intro fl'
    cases hleft : fl'.unlessDone with
    | none => simp [Flow.awaits_of_done hleft]
    | some fl'' => rw [Flow.unlessDone_eq_some hleft, awaitsOf_some]
  cases h with
  | @launches p reaction event =>
    have hrequests : (c.react m).requests
        = (Flow.pass p true (checksOf m.surroundings)).awaits f := by
      rw [reaction, mintRequests_eq]
      rfl
    have hnone : q ∉ (Flow.queued p).awaits f := List.not_mem_nil
    simp [hrequests, hnone]
  | @lists p checks answer reaction event =>
    have hrequests : (c.react m).requests = [] := by rw [reaction, requests_proceed]
    rw [hdone, hrequests, Flow.mem_awaits, Flow.mem_awaits]
    constructor
    · rintro (⟨hdue, -⟩ | ⟨a, k, hk, rfl⟩)
      · cases hdue
      · exact .inl ⟨.inr ⟨a, k, hk, rfl⟩, Check.not_answers_of_listed event⟩
    · rintro (⟨⟨-, rfl⟩ | hcheck, hnot⟩ | hnil)
      · simp [event, CoordinatorEvent.answers] at hnot
      · exact .inr hcheck
      · cases hnil
  | reads answer reaction event =>
    simp only [awaitsOf_none, reaction, List.not_mem_nil, or_false, false_iff, not_and]
    exact not_mem_awaits_of_listed event rfl
  | removes answer reaction event =>
    simp only [awaitsOf_none, reaction, List.not_mem_nil, or_false, false_iff, not_and]
    exact not_mem_awaits_of_listed event rfl
  | @advances fl a token due reaction event =>
    have hsubject : m.event.subject? = some (f, a) := by rw [event]; rfl
    have hanswers : m.event.answers (Check.minting.request f a) = true := by
      rw [event]
      simp [CoordinatorEvent.answers, Check.request]
    have hrequests : (c.react m).requests = [.identify f a token] := by rw [reaction]
    rw [awaitsOf_some, mem_awaits_advanced due, mem_awaits_filter sound due hsubject hanswers,
      hrequests, List.mem_singleton]
  | resolves v due reaction subject verdict =>
    have hrequests : (c.react m).requests = [] := by rw [reaction, requests_resolve]
    rw [hdone, mem_awaits_filter sound due subject (Check.answers_of_verdict? verdict subject),
      hrequests]
    simp
  | keeps reaction unasked =>
    have hrequests : (c.react m).requests = [] := by rw [reaction]
    rw [awaitsOf_some, hrequests]
    constructor
    · exact fun hq => .inl ⟨hq, unasked q hq⟩
    · rintro (⟨hq, -⟩ | hnil)
      · exact hq
      · cases hnil

/-! ## What is unanswered -/

/-- What has been asked for and not been answered is what the flows wait for. -/
def Accounted (c : Coordinator) (asked : List Request) : Prop :=
  ∀ q, q ∈ asked ↔ q ∈ awaitsOf q.flow (c.flow? q.flow)

theorem flow_of_mem_awaitsOf {f : Nat} {fl? : Option Flow} {q : Request} (h : q ∈ awaitsOf f fl?) :
    q.flow = f := by
  cases fl? with
  | none => cases h
  | some fl => exact Flow.flow_of_mem_awaits h

/-- Flows that begin wait for what is asked for then. -/
theorem awaitsOf_entered (fresh : c.flow? c.nextFlow = none) (target : m.event.target? = none)
    (q : Request) :
    q ∈ awaitsOf q.flow ((c.react m).coordinator.flow? q.flow)
      ↔ q ∈ awaitsOf q.flow (c.flow? q.flow) ∨ q ∈ (c.react m).requests := by
  obtain ⟨entered, hrequests, hflow, -⟩ := entered_react c target
  rw [hflow, hrequests]
  by_cases hq : c.nextFlow = q.flow
  · simp [← hq, fresh]
  · have hnot : q ∉ awaitsOf c.nextFlow entered := fun hmem => hq (flow_of_mem_awaitsOf hmem).symm
    simp [hq, hnot]

/-- What comes for a flow leaves what it waits for then. -/
theorem awaitsOf_turn (sound : c.Sound) (target : m.event.target? = some f) (q : Request) :
    q ∈ awaitsOf f ((c.react m).coordinator.flow? f)
      ↔ (q ∈ awaitsOf f (c.flow? f) ∧ m.event.answers q = false) ∨ q ∈ (c.react m).requests := by
  cases hflow : c.flow? f with
  | none =>
    have hreact := react_of_gone target (c := c) (by simp [role?, hflow])
    simp [hreact, hflow]
  | some fl =>
    obtain ⟨after, turn⟩ := exists_turn hflow (sound f fl hflow) target
    rw [turn.flow? hflow, turn.mem_awaits (sound f fl hflow), awaitsOf_some]

/-- What comes for a flow makes it ask, and no other. -/
theorem flow_of_mem_requests (sound : c.Sound) (target : m.event.target? = some f) {q : Request}
    (hq : q ∈ (c.react m).requests) : q.flow = f := by
  cases hflow : c.flow? f with
  | none =>
    rw [react_of_gone target (by simp [role?, hflow])] at hq
    cases hq
  | some fl =>
    obtain ⟨after, turn⟩ := exists_turn hflow (sound f fl hflow) target
    exact flow_of_mem_awaitsOf ((turn.mem_awaits (sound f fl hflow) q).2 (.inr hq))

theorem Accounted.react {asked : List Request} (h : Accounted c asked) (sound : c.Sound)
    (fresh : c.flow? c.nextFlow = none) (m : Moment) :
    Accounted (c.react m).coordinator
      (asked.filter (fun q => !m.event.answers q) ++ (c.react m).requests) := by
  intro q
  have hmem : q ∈ asked.filter (fun q => !m.event.answers q) ++ (c.react m).requests
      ↔ (q ∈ awaitsOf q.flow (c.flow? q.flow) ∧ m.event.answers q = false)
        ∨ q ∈ (c.react m).requests := by
    simp [h q]
  rw [hmem]
  cases target : m.event.target? with
  | none =>
    have hnot : m.event.answers q = false :=
      CoordinatorEvent.not_answers_of_target? (by simp [target])
    rw [awaitsOf_entered fresh target]
    simp [hnot]
  | some f =>
    by_cases hq : q.flow = f
    · subst hq
      exact (awaitsOf_turn sound target q).symm
    · have hnot : m.event.answers q = false :=
        CoordinatorEvent.not_answers_of_target? (by simpa [target] using Ne.symm hq)
      have hnone : q ∉ (c.react m).requests := fun hmem =>
        hq (flow_of_mem_requests sound target hmem)
      rw [flow?_react_of_ne target hq]
      simp [hnot, hnone]

end

theorem Accounted.run {c : Coordinator} {asked : List Request} (h : Accounted c asked)
    (coherent : Coherent c) (sound : c.Sound) (ms : List Moment) :
    Accounted (c.run ms) (c.unanswered asked ms) := by
  induction ms generalizing c asked with
  | nil => exact h
  | cons m ms ih =>
    have hfresh : c.flow? c.nextFlow = none :=
      Option.map_eq_none_iff.1 (coherent.fresh c.nextFlow (Nat.le_refl _))
    exact ih (h.react sound hfresh m) (coherent.react m) (sound.react m)

/-- In every run, what is unanswered is what the flows wait for. -/
theorem mem_unanswered (ms : List Moment) (q : Request) :
    q ∈ ({} : Coordinator).unanswered [] ms
      ↔ q ∈ awaitsOf q.flow ((({} : Coordinator).run ms).flow? q.flow) := by
  have hnone : Accounted {} [] := fun q => iff_of_false List.not_mem_nil List.not_mem_nil
  exact hnone.run coherent_empty (fun _ _ h => by cases h) ms q

/-! ## Passes in flight -/

/-- A flow that has had its turn waits for an answer. -/
theorem awaits_ne_nil {fl : Flow} (sound : fl.Sound) (turned : ∀ p, fl ≠ .queued p) (f : Nat) :
    fl.awaits f ≠ [] := by
  rcases sound.waits with ⟨p, rfl⟩ | hlist | hchecks
  · exact absurd rfl (turned p)
  · exact List.ne_nil_of_mem (Flow.mem_awaits.2 (.inl ⟨hlist, rfl⟩))
  · obtain ⟨⟨a, k⟩, hk⟩ := List.exists_mem_of_ne_nil _ hchecks
    exact List.ne_nil_of_mem (Flow.mem_awaits.2 (.inr ⟨a, k, hk, rfl⟩))

/-- The pass in flight waits for its turn, or for something that it has asked for. -/
theorem waits_of_current (ms : List Moment) {f : Nat}
    (h : (({} : Coordinator).run ms).Current f) :
    let c := ({} : Coordinator).run ms
    c.flow? f = some (.queued c.state.passId)
      ∨ ∃ q ∈ ({} : Coordinator).unanswered [] ms, q.flow = f := by
  intro c
  obtain ⟨fl, hflow, hrole⟩ := Option.map_eq_some_iff.1 h.2
  by_cases hqueued : ∃ p, fl = .queued p
  · obtain ⟨p, rfl⟩ := hqueued
    obtain rfl : p = c.state.passId := by simpa [Flow.role] using hrole
    exact .inl hflow
  · have hne : fl.awaits f ≠ [] :=
      awaits_ne_nil (sound_run ms f fl hflow) (fun p hp => hqueued ⟨p, hp⟩) f
    obtain ⟨q, hq⟩ := List.exists_mem_of_ne_nil _ hne
    obtain rfl := Flow.flow_of_mem_awaits hq
    refine .inr ⟨q, (mem_unanswered ms q).2 ?_, rfl⟩
    rw [hflow]
    exact hq

/-- In every run: when the pass under the current number does not wait for its turn, and nothing is
unanswered that the pass in flight has asked for, then no pass is in flight, so that the next start
is not refused. A pass that is in flight has its turn to come, or waits for the account list, for an
access token or for the owner of one. -/
theorem never_stuck (ms : List Moment) :
    let c := ({} : Coordinator).run ms
    let due := ({} : Coordinator).unanswered [] ms
    ((∀ f, c.flow? f ≠ some (.queued c.state.passId)) → (∀ q ∈ due, ¬ c.Current q.flow) →
        c.state.started = false ∧ c.start.2.isSome = true)
      ∧ (c.state.started = true → ∃ f, c.Current f
          ∧ (c.flow? f = some (.queued c.state.passId) ∨ ∃ q ∈ due, q.flow = f)) := by
  intro c due
  have hwaits : c.state.started = true → ∃ f, c.Current f
      ∧ (c.flow? f = some (.queued c.state.passId) ∨ ∃ q ∈ due, q.flow = f) := by
    intro hstarted
    obtain ⟨f, hcurrent⟩ := (started_iff_current (coherent_run ms)).1 hstarted
    exact ⟨f, hcurrent, waits_of_current ms hcurrent⟩
  refine ⟨fun hturn hanswered => ?_, hwaits⟩
  have hidle : c.state.started = false := by
    rw [← Bool.not_eq_true]
    intro hstarted
    obtain ⟨f, hcurrent, hqueued | ⟨q, hq, rfl⟩⟩ := hwaits hstarted
    · exact hturn f hqueued
    · exact hanswered q hq hcurrent
  exact ⟨hidle, by simp [start, hidle]⟩

end SessionSync.Coordinator
