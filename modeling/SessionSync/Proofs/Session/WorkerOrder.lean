import SessionSync.Simulation.Services

/-!
# The worker keeps the order

The agent may be told anything at any time, also while the worker waits for an answer, and every
answer may be a failure. What the worker asks for is nevertheless what it would ask for if it
carried out one instruction after the other, each to its end: no request is lost, made twice or
moved.

* `Instruction.Expands` — what comes of one instruction; `ExpandsAll` strings instructions together.
* `WorkerRun` — the worker with the requests it has made; `WorkerRun.Leads` is a turn or an answer.
* `InOrder` — the invariant: some instructions are carried out, one may be in hand, the others wait
  in the queue. `inOrder_takeNext` is the step from one instruction to the next.
* `carried_out_in_order` — the main result.
-/

namespace SessionSync

/-! ## What comes of an instruction -/

/-- Something that the worker has done. -/
inductive Deed
  /-- It asked for an access token of an account, and this was the answer. -/
  | minted (account : AccountId) (answer : Except TokenError String)
  /-- It asked for a change of the session. -/
  | called (call : SessionCall)

/-- Accounts are added one after the other; one for which there is no access token is passed over.
-/
inductive Merges : List AccountId → List Deed → Prop
  | nil : Merges [] []
  | merged {a : AccountId} {token : String} {rest : List AccountId} {deeds : List Deed}
      (later : Merges rest deeds) :
      Merges (a :: rest) (.minted a (.ok token) :: .called (.merge token) :: deeds)
  | passedOver {a : AccountId} {e : TokenError} {rest : List AccountId} {deeds : List Deed}
      (later : Merges rest deeds) : Merges (a :: rest) (.minted a (.error e) :: deeds)

/-- What comes of an instruction. The removal of an account that is in the session signs everybody
out and adds the others again, in the order of the session. -/
inductive Instruction.Expands : Instruction → List Deed → Prop
  | merge {a : AccountId} {deeds : List Deed} (merges : Merges [a] deeds) :
      Expands (.perform (.merge a)) deeds
  | adopt {a : AccountId} {place : Nat} : Expands (.perform (.adopt a place)) []
  | logoutAll : Expands (.perform .logoutAll) [.called .logout]
  | startRemoval {a : AccountId} : Expands (.startRemoval a) []
  | removed {a : AccountId} {session : List AccountId} {deeds : List Deed} (present : a ∈ session)
      (merges : Merges (session.filter (· ≠ a)) deeds) :
      Expands (.finishRemoval a (.ok session)) (.called .logout :: deeds)
  | absent {a : AccountId} {session : List AccountId} (absent : a ∉ session) :
      Expands (.finishRemoval a (.ok session)) []
  | unread {a : AccountId} {e : ListingError} : Expands (.finishRemoval a (.error e)) []

/-- What comes of instructions, one after the other. -/
inductive ExpandsAll : List Instruction → List Deed → Prop
  | nil : ExpandsAll [] []
  | snoc {told : List Instruction} {c : Instruction} {before deeds : List Deed}
      (earlier : ExpandsAll told before) (last : c.Expands deeds) :
      ExpandsAll (told ++ [c]) (before ++ deeds)

theorem exists_merges (accounts : List AccountId) : ∃ deeds, Merges accounts deeds := by
  induction accounts with
  | nil => exact ⟨[], .nil⟩
  | cons a rest ih =>
    obtain ⟨deeds, h⟩ := ih
    exact ⟨.minted a (.error .invalidCredentials) :: deeds, .passedOver h⟩

theorem exists_expands (c : Instruction) : ∃ deeds, c.Expands deeds := by
  cases c with
  | perform x =>
    cases x with
    | merge a =>
      obtain ⟨deeds, h⟩ := exists_merges [a]
      exact ⟨deeds, .merge h⟩
    | adopt a place => exact ⟨[], .adopt⟩
    | logoutAll => exact ⟨_, .logoutAll⟩
  | startRemoval a => exact ⟨[], .startRemoval⟩
  | finishRemoval a session =>
    cases session with
    | error e => exact ⟨[], .unread⟩
    | ok session =>
      by_cases h : a ∈ session
      · obtain ⟨deeds, hmerges⟩ := exists_merges (session.filter (· ≠ a))
        exact ⟨_, .removed h hmerges⟩
      · exact ⟨[], .absent h⟩

/-- Whatever has been done, more instructions can be carried out after it. -/
theorem ExpandsAll.exists_more {told : List Instruction} {before : List Deed}
    (h : ExpandsAll told before) (more : List Instruction) :
    ∃ later, ExpandsAll (told ++ more) (before ++ later) := by
  induction more generalizing told before with
  | nil => exact ⟨[], by simpa using h⟩
  | cons c more ih =>
    obtain ⟨deeds, hc⟩ := exists_expands c
    obtain ⟨later, hlater⟩ := ih (h.snoc hc)
    exact ⟨deeds ++ later, by simpa using hlater⟩

/-! ### The worker's part -/

/-- The instructions that have an operation for the worker. -/
theorem Instruction.operation?_cases {c : Instruction} {op : Operation}
    (h : c.operation? = some op) :
    (∃ a, c = .perform (.merge a) ∧ op = .merge a)
      ∨ (c = .perform .logoutAll ∧ op = .logoutAll)
      ∨ ∃ a session, a ∈ session ∧ c = .finishRemoval a (.ok session)
        ∧ op = .logoutAccount a session := by
  cases c with
  | perform x =>
    cases x with
    | merge a => exact .inl ⟨a, rfl, (Option.some.inj h).symm⟩
    | adopt a place => cases h
    | logoutAll => exact .inr (.inl ⟨rfl, (Option.some.inj h).symm⟩)
  | startRemoval a => cases h
  | finishRemoval a session =>
    cases session with
    | error e => cases h
    | ok session =>
      rw [operation?] at h
      split at h
      · next hcontains =>
        exact .inr (.inr ⟨a, session, List.contains_iff_mem.1 hcontains, rfl,
          (Option.some.inj h).symm⟩)
      · cases h

/-- The worker has no part in the removal of an account that is not in the session. -/
theorem Instruction.not_mem_of_idle {a : AccountId} {session : List AccountId}
    (h : (finishRemoval a (.ok session)).operation? = none) : a ∉ session := by
  intro hmem
  rw [operation?, if_pos (List.contains_iff_mem.2 hmem)] at h
  cases h

/-- An instruction without an operation for the worker leads to nothing. -/
theorem expands_of_operation?_eq_none {c : Instruction} (h : c.operation? = none) :
    c.Expands [] := by
  cases c with
  | perform x =>
    cases x with
    | merge a => cases h
    | adopt a place => exact .adopt
    | logoutAll => cases h
  | startRemoval a => exact .startRemoval
  | finishRemoval a session =>
    cases session with
    | error e => exact .unread
    | ok session => exact .absent (Instruction.not_mem_of_idle h)

/-- Nothing more has to be done for instructions without operations. -/
theorem ExpandsAll.idle {told more : List Instruction} {deeds : List Deed}
    (h : ExpandsAll told deeds) (quiet : more.filterMap (·.operation?) = []) :
    ExpandsAll (told ++ more) deeds := by
  induction more generalizing told with
  | nil => simpa using h
  | cons c more ih =>
    have hall := List.filterMap_eq_nil_iff.1 quiet
    have hnext : ExpandsAll (told ++ [c]) deeds := by
      simpa using h.snoc (expands_of_operation?_eq_none (hall c List.mem_cons_self))
    have hmore : more.filterMap (·.operation?) = [] :=
      List.filterMap_eq_nil_iff.2 fun d hd => hall d (List.mem_cons_of_mem c hd)
    have hlast := ih hnext hmore
    rwa [List.append_assoc] at hlast

theorem expands_of_operation?_eq_merge {c : Instruction} {a : AccountId} {deeds : List Deed}
    (h : c.operation? = some (.merge a)) (merges : Merges [a] deeds) : c.Expands deeds := by
  obtain ⟨b, rfl, heq⟩ | ⟨-, heq⟩ | ⟨b, session, -, -, heq⟩ := Instruction.operation?_cases h
  · cases heq
    exact .merge merges
  · cases heq
  · cases heq

theorem expands_of_operation?_eq_logoutAll {c : Instruction}
    (h : c.operation? = some .logoutAll) : c.Expands [.called .logout] := by
  obtain ⟨b, -, heq⟩ | ⟨rfl, -⟩ | ⟨b, session, -, -, heq⟩ := Instruction.operation?_cases h
  · cases heq
  · exact .logoutAll
  · cases heq

theorem expands_of_operation?_eq_logoutAccount {c : Instruction} {a : AccountId}
    {session : List AccountId} {deeds : List Deed}
    (h : c.operation? = some (.logoutAccount a session))
    (merges : Merges (session.filter (· ≠ a)) deeds) : c.Expands (.called .logout :: deeds) := by
  obtain ⟨b, -, heq⟩ | ⟨-, heq⟩ | ⟨b, listed, present, rfl, heq⟩ := Instruction.operation?_cases h
  · cases heq
  · cases heq
  · cases heq
    exact .removed present merges

/-! ## A run of the worker -/

/-- The worker in a run: what it waits for, and what it was told and has done so far. -/
structure WorkerRun where
  /-- The worker. -/
  worker : Worker := {}
  /-- The requests that have not been answered. -/
  due : List WorkerRequest := []
  /-- What the agent has been told, oldest first. -/
  told : List Instruction := []
  /-- What the worker has done, oldest first. -/
  deeds : List Deed := []

/-- The change of the session that is asked for. -/
def SessionCall.request : SessionCall → WorkerRequest
  | .merge token => .merge token
  | .logout => .logout

/-- What a request of the worker counts for at once. An access token counts when it arrives. -/
def WorkerRequest.deeds : WorkerRequest → List Deed
  | .mint _ => []
  | .merge token => [.called (.merge token)]
  | .logout => [.called .logout]

namespace WorkerRun

/-- The agent is told something, and queues an operation if one is needed. -/
def tell (p : WorkerRun) (c : Instruction) : WorkerRun :=
  { p with
    worker := (c.operation?.map p.worker.enqueue).getD p.worker
    told := p.told ++ [c] }

/-- Takes over a step of the worker. -/
def progress (p : WorkerRun) (step : Worker × Option WorkerRequest) : WorkerRun :=
  { p with
    worker := step.1
    due := p.due ++ step.2.toList
    deeds := p.deeds ++ (step.2.map WorkerRequest.deeds).getD [] }

/-- An access token of an account, or word that there is none, reaches the worker. -/
def takeToken (p : WorkerRun) (a : AccountId) (answer : Except TokenError String) : WorkerRun :=
  { p with deeds := p.deeds ++ [Deed.minted a answer] }.progress (p.worker.minted answer)

/-- The session has answered, with success or not. -/
def takeAnswer (p : WorkerRun) : WorkerRun :=
  p.progress p.worker.answered

/-- A request is answered, with whatever outcome, after it has been taken out of what is due. -/
inductive Answers (p : WorkerRun) : WorkerRequest → WorkerRun → Prop
  | mint (a : AccountId) (answer : Except TokenError String) :
      Answers p (.mint a) (p.takeToken a answer)
  | change (call : SessionCall) (outcome : Except CallError Unit) :
      Answers p call.request p.takeAnswer

/-- The worker gets its turn when something waits for it, or one of the requests that are due is
answered. -/
inductive Leads (p : WorkerRun) : WorkerRun → Prop
  | wake (idle : p.worker.stage = .idle) (waiting : p.worker.queue ≠ []) :
      Leads p (p.progress p.worker.wake)
  | answer {q : WorkerRun} (before : List WorkerRequest) (r : WorkerRequest)
      (after : List WorkerRequest) (due : p.due = before ++ r :: after)
      (answers : Answers { p with due := before ++ after } r q) : Leads p q

/-- What can come of a worker that has done nothing yet: the agent is told things, and in between
the worker gets its turns and its answers. -/
inductive Reached : WorkerRun → Prop
  | fresh : Reached {}
  | told {p : WorkerRun} (earlier : Reached p) (c : Instruction) : Reached (p.tell c)
  | went {p q : WorkerRun} (earlier : Reached p) (leads : Leads p q) : Reached q

/-- Nothing is left to do. -/
structure AtRest (p : WorkerRun) : Prop where
  due : p.due = []
  queue : p.worker.queue = []

/-- When the agent is told nothing more, everything comes to an end, and only at rest. -/
inductive Ends : WorkerRun → Prop
  | intro {p : WorkerRun} (free : p.AtRest ∨ ∃ q, Leads p q) (later : ∀ q, Leads p q → Ends q) :
      Ends p

end WorkerRun

/-! ## Stages -/

/-- The accounts that are still to be added for the instruction in hand. -/
def Stage.left : Stage → List AccountId
  | .idle => []
  | .minting a rest => a :: rest
  | .merging rest => rest
  | .loggingOut rest => rest

/-- What is due at a stage. -/
inductive Stage.Awaits : Stage → List WorkerRequest → Prop
  | idle : Awaits .idle []
  | minting (a : AccountId) (rest : List AccountId) : Awaits (.minting a rest) [.mint a]
  | merging (token : String) (rest : List AccountId) : Awaits (.merging rest) [.merge token]
  | loggingOut (rest : List AccountId) : Awaits (.loggingOut rest) [.logout]

theorem Stage.Awaits.length_le_one {stage : Stage} {due : List WorkerRequest}
    (h : stage.Awaits due) : due.length ≤ 1 := by
  cases h with
  | idle => exact Nat.zero_le 1
  | minting | merging | loggingOut => exact Nat.le_refl 1

/-- With nothing due the worker has nothing in hand. -/
theorem Stage.Awaits.eq_idle {stage : Stage} {due : List WorkerRequest} (h : stage.Awaits due)
    (nothing : due = []) : stage = .idle := by
  cases h with
  | idle => rfl
  | minting | merging | loggingOut => cases nothing

/-! ## How much the worker may still ask for -/

namespace Worker

/-- How many requests the worker makes at most from a step on. -/
def ahead (step : Worker × Option WorkerRequest) : Nat :=
  step.1.backlog + if step.2.isSome then 1 else 0

theorem ahead_mergeNext (queue : List Operation) (a : AccountId) (rest : List AccountId) :
    ahead (mergeNext queue a rest) = opSizes queue + 2 * (rest.length + 1) := by
  rw [ahead, backlog_mergeNext]
  show _ + 1 = _
  omega

theorem ahead_takeNext (queue : List Operation) : ahead (takeNext queue) ≤ opSizes queue := by
  cases queue with
  | nil => exact Nat.le_refl 0
  | cons op queue =>
    cases op with
    | merge a =>
      rw [takeNext, ahead_mergeNext]
      show _ ≤ 2 + opSizes queue
      exact Nat.le_of_eq (Nat.add_comm _ _)
    | logoutAll =>
      show opSizes queue + 0 + 1 ≤ 1 + opSizes queue
      omega
    | logoutAccount a session =>
      have hless := List.length_filter_le (· ≠ a) session
      show opSizes queue + 2 * (session.filter (· ≠ a)).length + 1 ≤
        1 + 2 * session.length + opSizes queue
      omega

theorem ahead_goOn (queue : List Operation) (rest : List AccountId) :
    ahead (goOn queue rest) ≤ opSizes queue + 2 * rest.length := by
  cases rest with
  | nil => exact ahead_takeNext queue
  | cons a rest => exact Nat.le_of_eq (ahead_mergeNext queue a rest)

/-- The backlog of a worker bounds what it still asks for. -/
theorem ahead_wake (w : Worker) : ahead w.wake ≤ w.backlog := by
  obtain ⟨queue, stage⟩ := w
  cases stage with
  | idle => exact ahead_takeNext queue
  | minting | merging | loggingOut => exact Nat.le_refl _

theorem ahead_minted (w : Worker) (answer : Except TokenError String) :
    ahead (w.minted answer) ≤ w.backlog := by
  obtain ⟨queue, stage⟩ := w
  cases stage with
  | idle | merging | loggingOut => exact Nat.le_refl _
  | minting a rest =>
    show _ ≤ opSizes queue + (1 + 2 * rest.length)
    cases answer with
    | ok token =>
      show opSizes queue + 2 * rest.length + 1 ≤ _
      omega
    | error e =>
      have hless := ahead_goOn queue rest
      show ahead (goOn queue rest) ≤ _
      omega

theorem ahead_answered (w : Worker) : ahead w.answered ≤ w.backlog := by
  obtain ⟨queue, stage⟩ := w
  cases stage with
  | idle | minting => exact Nat.le_refl _
  | merging rest | loggingOut rest => exact ahead_goOn queue rest

end Worker

/-! ## The invariant -/

namespace WorkerRun

/-- Instructions have been taken up in the order in which they came, the last of them may be in
hand, and the operations of the others wait in the queue. -/
structure InOrder (p : WorkerRun) : Prop where
  awaits : p.worker.stage.Awaits p.due
  taken : ∃ done todo, p.told = done ++ todo ∧ p.worker.queue = todo.filterMap (·.operation?)
    ∧ ∀ more, Merges p.worker.stage.left more → ExpandsAll done (p.deeds ++ more)

variable {p q : WorkerRun}

theorem inOrder_fresh : InOrder {} := by
  refine ⟨.idle, [], [], rfl, rfl, fun more h => ?_⟩
  cases h
  exact .nil

/-- Being told something only makes the queue longer. -/
theorem InOrder.tell (h : p.InOrder) (c : Instruction) : (p.tell c).InOrder := by
  obtain ⟨awaits, done, todo, htold, hqueue, hdone⟩ := h
  unfold WorkerRun.tell
  cases hop : c.operation? with
  | none =>
    refine ⟨awaits, done, todo ++ [c], ?_, ?_, hdone⟩
    · show p.told ++ [c] = _
      rw [htold, List.append_assoc]
    · show p.worker.queue = _
      rw [hqueue, List.filterMap_append, List.filterMap_cons_none hop, List.filterMap_nil,
        List.append_nil]
  | some op =>
    refine ⟨awaits, done, todo ++ [c], ?_, ?_, hdone⟩
    · show p.told ++ [c] = _
      rw [htold, List.append_assoc]
    · show p.worker.queue ++ [op] = _
      rw [hqueue, List.filterMap_append, List.filterMap_cons_some hop, List.filterMap_nil]

/-- The worker makes a request for an instruction that it has taken up. -/
theorem inOrder_request {done todo : List Instruction} {stage : Stage} {r : WorkerRequest}
    (due : p.due = []) (told : p.told = done ++ todo) (awaits : stage.Awaits [r])
    (carried : ∀ more, Merges stage.left more → ExpandsAll done (p.deeds ++ (r.deeds ++ more))) :
    (p.progress (⟨todo.filterMap (·.operation?), stage⟩, some r)).InOrder := by
  refine ⟨?_, done, todo, told, rfl, fun more hmore => ?_⟩
  · show stage.Awaits (p.due ++ [r])
    rw [due]
    exact awaits
  · show ExpandsAll done (p.deeds ++ r.deeds ++ more)
    rw [List.append_assoc]
    exact carried more hmore

/-- With nothing in hand the worker takes up the next instruction, passing over those that it has
no part in. -/
theorem inOrder_takeNext {done todo : List Instruction} (due : p.due = [])
    (told : p.told = done ++ todo) (carried : ExpandsAll done p.deeds) :
    (p.progress (Worker.takeNext (todo.filterMap (·.operation?)))).InOrder := by
  induction todo generalizing done with
  | nil =>
    refine ⟨?_, done, [], told, rfl, fun more hmore => ?_⟩
    · show Stage.Awaits .idle (p.due ++ [])
      rw [due]
      exact .idle
    · cases hmore
      simpa [progress, Worker.takeNext] using carried
  | cons c todo ih =>
    have htold : p.told = (done ++ [c]) ++ todo := by rw [told, List.append_assoc]; rfl
    cases hop : c.operation? with
    | none =>
      rw [List.filterMap_cons_none hop]
      have hcarried : ExpandsAll (done ++ [c]) p.deeds := by
        simpa using carried.snoc (expands_of_operation?_eq_none hop)
      exact ih htold hcarried
    | some op =>
      rw [List.filterMap_cons_some hop]
      cases op with
      | merge a =>
        exact inOrder_request due htold (.minting a []) fun more hmore =>
          carried.snoc (expands_of_operation?_eq_merge hop hmore)
      | logoutAll =>
        refine inOrder_request due htold (.loggingOut []) fun more hmore => ?_
        cases hmore
        exact carried.snoc (expands_of_operation?_eq_logoutAll hop)
      | logoutAccount a session =>
        exact inOrder_request due htold (.loggingOut _) fun more hmore =>
          carried.snoc (expands_of_operation?_eq_logoutAccount hop hmore)

/-- The worker goes on with the accounts that are left for the instruction in hand, or takes up the
next one. -/
theorem inOrder_goOn {done todo : List Instruction} {rest : List AccountId} (due : p.due = [])
    (told : p.told = done ++ todo)
    (carried : ∀ more, Merges rest more → ExpandsAll done (p.deeds ++ more)) :
    (p.progress (Worker.goOn (todo.filterMap (·.operation?)) rest)).InOrder := by
  cases rest with
  | nil => exact inOrder_takeNext due told (by simpa using carried [] .nil)
  | cons a rest => exact inOrder_request due told (.minting a rest) carried

/-- An access token arrives, or word that there is none. -/
theorem inOrder_takeToken {done todo : List Instruction} {a : AccountId} {rest : List AccountId}
    (due : p.due = []) (told : p.told = done ++ todo)
    (worker : p.worker = ⟨todo.filterMap (·.operation?), .minting a rest⟩)
    (carried : ∀ more, Merges (a :: rest) more → ExpandsAll done (p.deeds ++ more))
    (answer : Except TokenError String) : (p.takeToken a answer).InOrder := by
  have hcarried : ∀ more, Merges (a :: rest) (.minted a answer :: more) →
      ExpandsAll done (p.deeds ++ [.minted a answer] ++ more) := by
    intro more hmore
    rw [List.append_assoc]
    exact carried _ hmore
  unfold takeToken
  rw [worker]
  cases answer with
  | ok token =>
    exact inOrder_request due told (.merging token rest) fun more hmore =>
      hcarried _ (.merged hmore)
  | error e => exact inOrder_goOn due told fun more hmore => hcarried _ (.passedOver hmore)

/-- A request is answered. -/
theorem InOrder.answers {r : WorkerRequest} (h : p.InOrder) (due : p.due = [r])
    (answers : Answers { p with due := [] } r q) : q.InOrder := by
  obtain ⟨awaits, done, todo, told, queue, carried⟩ := h
  generalize hstage : p.worker.stage = stage at awaits carried
  have hworker : p.worker = ⟨todo.filterMap (·.operation?), stage⟩ := by rw [← queue, ← hstage]
  rw [due] at awaits
  cases answers with
  | mint a answer =>
    cases awaits with
    | minting a rest =>
      exact inOrder_takeToken (p := { p with due := [] }) rfl told hworker carried answer
  | change call outcome =>
    have hgoOn : p.worker.answered = Worker.goOn (todo.filterMap (·.operation?)) stage.left := by
      rw [hworker]
      cases call <;> cases awaits <;> rfl
    show (progress { p with due := [] } p.worker.answered).InOrder
    rw [hgoOn]
    exact inOrder_goOn rfl told carried

/-- The worker gets its turn or an answer. -/
theorem InOrder.leads (h : p.InOrder) (leads : Leads p q) : q.InOrder := by
  cases leads with
  | wake idle waiting =>
    obtain ⟨awaits, done, todo, told, queue, carried⟩ := h
    rw [idle] at awaits carried
    have hdue : p.due = [] := by
      generalize p.due = due at awaits
      cases awaits
      rfl
    have hwake : p.worker.wake = Worker.takeNext (todo.filterMap (·.operation?)) := by
      rw [Worker.wake, idle, queue]
    rw [hwake]
    exact inOrder_takeNext hdue told (by simpa using carried [] .nil)
  | answer before r after due answers =>
    have hlength := h.awaits.length_le_one
    rw [due, List.length_append, List.length_cons] at hlength
    obtain rfl : before = [] := List.eq_nil_of_length_eq_zero (by omega)
    obtain rfl : after = [] := List.eq_nil_of_length_eq_zero (by omega)
    exact h.answers due answers

theorem Reached.inOrder (h : Reached p) : p.InOrder := by
  induction h with
  | fresh => exact inOrder_fresh
  | told earlier c ih => exact ih.tell c
  | went earlier leads ih => exact ih.leads leads

/-! ## Every run comes to an end -/

/-- How much is left to do. -/
def labour (p : WorkerRun) : Nat :=
  2 * p.worker.backlog + p.due.length

theorem labour_progress {step : Worker × Option WorkerRequest} {n : Nat}
    (ahead : Worker.ahead step ≤ n) : (p.progress step).labour ≤ 2 * n + p.due.length := by
  obtain ⟨worker, request⟩ := step
  unfold labour progress
  unfold Worker.ahead at ahead
  cases request with
  | none =>
    simp only [Option.isSome_none, Bool.false_eq_true, if_false] at ahead
    simp only [Option.toList_none, List.append_nil]
    omega
  | some r =>
    simp only [Option.isSome_some, if_true] at ahead
    simp only [Option.toList_some, List.length_append, List.length_singleton]
    omega

/-- The request that the worker begins with has been part of its backlog. -/
theorem labour_wake (idle : p.worker.stage = .idle) (waiting : p.worker.queue ≠ []) :
    (p.progress p.worker.wake).labour < p.labour := by
  obtain ⟨op, queue, hqueue⟩ := List.exists_cons_of_ne_nil waiting
  have hahead := Worker.ahead_wake p.worker
  have hasks : p.worker.wake.2.isSome = true := by
    rw [Worker.wake, idle, hqueue]
    cases op <;> rfl
  obtain ⟨r, hr⟩ := Option.isSome_iff_exists.1 hasks
  rw [Worker.ahead, hasks] at hahead
  simp only [labour, progress, hr, Option.toList_some, List.length_append, List.length_singleton]
  simp only [if_true] at hahead
  omega

theorem labour_leads (leads : Leads p q) : q.labour < p.labour := by
  cases leads with
  | wake idle waiting => exact labour_wake idle waiting
  | answer before r after due answers =>
    have hdue : p.due.length = (before ++ after).length + 1 := by
      rw [due, List.length_append, List.length_append, List.length_cons]
      omega
    unfold labour
    rw [hdue]
    cases answers with
    | mint a answer =>
      have hless := labour_progress (p := { p with
        due := before ++ after, deeds := p.deeds ++ [Deed.minted a answer] })
        (Worker.ahead_minted p.worker answer)
      exact Nat.lt_succ_of_le hless
    | change call outcome =>
      have hless := labour_progress (p := { p with due := before ++ after })
        (Worker.ahead_answered p.worker)
      exact Nat.lt_succ_of_le hless

/-- Whatever is due is answered some time or other, and a worker with nothing in hand gets its turn.
-/
theorem InOrder.free (h : p.InOrder) : p.AtRest ∨ ∃ q, Leads p q := by
  cases hdue : p.due with
  | cons r rest =>
    refine .inr ?_
    cases r with
    | mint a => exact ⟨_, .answer [] _ rest hdue (.mint a (.error .canceled))⟩
    | merge token => exact ⟨_, .answer [] _ rest hdue (.change (.merge token) (.ok ()))⟩
    | logout => exact ⟨_, .answer [] _ rest hdue (.change .logout (.ok ()))⟩
  | nil =>
    have hidle := h.awaits.eq_idle hdue
    by_cases hqueue : p.worker.queue = []
    · exact .inl ⟨hdue, hqueue⟩
    · exact .inr ⟨_, .wake hidle hqueue⟩

theorem InOrder.ends (h : p.InOrder) : p.Ends := by
  induction hn : p.labour using Nat.strongRecOn generalizing p with
  | ind n ih =>
    refine .intro h.free fun q hq => ?_
    exact ih _ (hn ▸ labour_leads hq) (h.leads hq) rfl

/-! ## What has been done -/

/-- What has been done is the beginning of what comes of the instructions. -/
theorem InOrder.exists_later (h : p.InOrder) : ∃ later, ExpandsAll p.told (p.deeds ++ later) := by
  obtain ⟨-, done, todo, told, -, carried⟩ := h
  obtain ⟨rest, hrest⟩ := exists_merges p.worker.stage.left
  obtain ⟨later, hlater⟩ := (carried rest hrest).exists_more todo
  refine ⟨rest ++ later, ?_⟩
  rw [told, ← List.append_assoc]
  exact hlater

/-- With nothing left to do all instructions have been carried out. -/
theorem InOrder.expandsAll (h : p.InOrder) (atRest : p.AtRest) : ExpandsAll p.told p.deeds := by
  obtain ⟨awaits, done, todo, told, queue, carried⟩ := h
  rw [awaits.eq_idle atRest.due] at carried
  have hdone : ExpandsAll done p.deeds := by simpa using carried [] .nil
  rw [atRest.queue] at queue
  rw [told]
  exact hdone.idle queue.symm

/-! ## Main result -/

/-- Whatever the agent has been told, in whatever order it was told and the worker got its turns and
its answers, and whatever the answers were: the worker waits for at most one answer; what it has
done is the beginning of what comes of the instructions one after the other, and all of it when
nothing is left to do; and that comes about whichever way things go on, if the agent is told nothing
more. -/
theorem carried_out_in_order (reached : Reached p) :
    p.due.length ≤ 1
      ∧ (∃ later, ExpandsAll p.told (p.deeds ++ later))
      ∧ (p.AtRest → ExpandsAll p.told p.deeds)
      ∧ p.Ends := by
  have h := reached.inOrder
  exact ⟨h.awaits.length_le_one, h.exists_later, h.expandsAll, h.ends⟩

/-- While the worker waits for an access token, the agent is told to remove an account and to sign
everybody out. The token is refused, the first logout fails, and so does one of two merges. -/
theorem carried_out_with_failures :
    ∃ p, Reached p ∧ p.AtRest
      ∧ p.told = [.perform (.merge ⟨"a"⟩), .finishRemoval ⟨"x"⟩ (.ok [⟨"b"⟩, ⟨"x"⟩, ⟨"c"⟩]),
        .perform .logoutAll]
      ∧ p.deeds = [.minted ⟨"a"⟩ (.error .canceled), .called .logout,
        .minted ⟨"b"⟩ (.error .invalidCredentials), .minted ⟨"c"⟩ (.ok "token"),
        .called (.merge "token"), .called .logout]
      ∧ ExpandsAll p.told p.deeds := by
  have waiting : Reached ((tell {} (.perform (.merge ⟨"a"⟩))).progress _) :=
    .went (.told .fresh _) (.wake rfl (List.cons_ne_nil _ _))
  have told := (waiting.told (.finishRemoval ⟨"x"⟩ (.ok [⟨"b"⟩, ⟨"x"⟩, ⟨"c"⟩]))).told
    (.perform .logoutAll)
  have refused := told.went (.answer [] _ [] rfl (.mint ⟨"a"⟩ (.error .canceled)))
  have loggedOut := refused.went (.answer [] _ [] rfl (.change .logout (.error (.network ""))))
  have passedOver := loggedOut.went (.answer [] _ [] rfl (.mint ⟨"b"⟩ (.error .invalidCredentials)))
  have minted := passedOver.went (.answer [] _ [] rfl (.mint ⟨"c"⟩ (.ok "token")))
  have failed := minted.went
    (.answer [] _ [] rfl (.change (.merge "token") (.error (.network ""))))
  have last := failed.went (.answer [] _ [] rfl (.change .logout (.ok ())))
  exact ⟨_, last, ⟨rfl, rfl⟩, rfl, rfl, (carried_out_in_order last).2.2.1 ⟨rfl, rfl⟩⟩

end WorkerRun

end SessionSync
