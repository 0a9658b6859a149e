import SessionSync.Proofs.System.Wiring

/-!
# The worker carries a plan out

Once a plan is told, the store notes the adoptions at once, and the worker makes the changes of the
session one after the other (`instructed_foldl`).

* `onSession` — what an action does to the session; `foldl_onSession` says that the worker's queue
  holds all that matters.
* `Carrying` — the invariant: what the worker has in hand and in its queue would take the session to
  where the plan takes it. `carrying_step` keeps it and lowers `labour`.
-/

namespace SessionSync

/-! ## Actions on the session -/

/-- The session after an action. -/
def onSession (session : List AccountId) : Action → List AccountId
  | .merge a => if session.contains a then session else session ++ [a]
  | .adopt _ _ => session
  | .logoutAll => []

theorem session_applyAll (s : SessionView) (actions : List Action) :
    (s.applyAll actions).session = actions.foldl onSession s.session := by
  induction actions generalizing s with
  | nil => rfl
  | cons x actions ih =>
    rw [SessionView.applyAll, List.foldl_cons, ← SessionView.applyAll, ih, List.foldl_cons]
    cases x <;> rfl

/-- The operations for the worker among actions. -/
def queueOf (actions : List Action) : List Operation :=
  actions.filterMap fun x => (Instruction.perform x).operation?

/-- Without an operation for the worker actions leave the session as it is. -/
theorem foldl_onSession {actions : List Action} (h : queueOf actions = [])
    (session : List AccountId) : actions.foldl onSession session = session := by
  induction actions with
  | nil => rfl
  | cons x actions ih =>
    cases x with
    | merge a => cases h
    | logoutAll => cases h
    | adopt a place => exact ih h

/-! ## The plan is told -/

/-- What is due for a worker that has nothing in hand. -/
def wakes : List Operation → List Due
  | [] => []
  | _ :: _ => [.wake]

/-- The worker has nothing in hand, and gets its turn if there is something in its queue. -/
structure Waits (s : System) : Prop where
  stage : s.worker.stage = .idle
  due : s.due = wakes s.worker.queue

/-- What it leads to that the agent is told actions. -/
structure Instructed (actions : List Action) (s t : System) : Prop where
  coordinator : t.coordinator = s.coordinator
  primary : t.primary = s.primary
  session : t.session = s.session
  calls : t.calls = s.calls
  waits : Waits t
  queue : t.worker.queue = s.worker.queue ++ queueOf actions
  held : t.store.held = s.store.held
  noted : ∀ a, (s.store.Noted a ∨ ∃ place, .adopt a place ∈ actions) → t.store.Noted a
  store : (∀ a place, .adopt a place ∈ actions → s.store.Noted a) → t.store = s.store

section

variable {s t u : System}

theorem Instructed.refl (waits : Waits s) : Instructed [] s s := by
  refine ⟨rfl, rfl, rfl, rfl, waits, (List.append_nil _).symm, rfl, ?_, fun _ => rfl⟩
  rintro a (h | ⟨place, h⟩)
  · exact h
  · cases h

theorem Instructed.trans {actions more : List Action} (h : Instructed actions s t)
    (h' : Instructed more t u) : Instructed (actions ++ more) s u := by
  refine ⟨h'.coordinator.trans h.coordinator, h'.primary.trans h.primary,
    h'.session.trans h.session, h'.calls.trans h.calls, h'.waits, ?_, h'.held.trans h.held, ?_, ?_⟩
  · rw [h'.queue, h.queue, queueOf, queueOf, queueOf, List.filterMap_append, List.append_assoc]
  · rintro a (hnoted | ⟨place, hmem⟩)
    · exact h'.noted a (.inl (h.noted a (.inl hnoted)))
    · rcases List.mem_append.1 hmem with hmem | hmem
      · exact h'.noted a (.inl (h.noted a (.inr ⟨place, hmem⟩)))
      · exact h'.noted a (.inr ⟨place, hmem⟩)
  · intro hall
    have hstore : t.store = s.store :=
      h.store fun a place hmem => hall a place (List.mem_append_left _ hmem)
    refine (h'.store fun a place hmem => ?_).trans hstore
    rw [hstore]
    exact hall a place (List.mem_append_right _ hmem)

theorem waits_enqueue (waits : Waits s) (op : Operation) : Waits (s.enqueue op) := by
  refine ⟨waits.stage, ?_⟩
  show (if s.worker.stage = .idle ∧ .wake ∉ s.due then s.due ++ [.wake] else s.due) =
    wakes (s.worker.queue ++ [op])
  rw [waits.due]
  cases s.worker.queue with
  | nil => exact if_pos ⟨waits.stage, List.not_mem_nil⟩
  | cons first rest => exact if_neg fun hnot => hnot.2 List.mem_cons_self

/-- An operation for the worker joins the queue. -/
theorem instructed_enqueue (waits : Waits s) (now : Int64) {x : Action} {op : Operation}
    (operation : (Instruction.perform x).operation? = some op) :
    Instructed [x] s (s.instruct now (.perform x)) := by
  have hqueue : queueOf [x] = [op] := List.filterMap_cons_some operation
  have hnot : ∀ a place, x ≠ .adopt a place := by
    rintro a place rfl
    cases operation
  have hinstruct : s.instruct now (.perform x) = s.enqueue op := by
    cases x with
    | merge a => cases operation; rfl
    | logoutAll => cases operation; rfl
    | adopt a place => exact absurd rfl (hnot a place)
  rw [hinstruct]
  refine ⟨rfl, rfl, rfl, rfl, waits_enqueue waits op, ?_, rfl, ?_, fun _ => rfl⟩
  · rw [hqueue]
    rfl
  · rintro a (h | ⟨place, hmem⟩)
    · exact h
    · exact absurd (List.mem_singleton.1 hmem).symm (hnot a place)

/-- An adoption goes to the store. -/
theorem instructed_adopt (waits : Waits s) (now : Int64) (a : AccountId) (place : Nat) :
    Instructed [.adopt a place] s (s.instruct now (.perform (.adopt a place))) := by
  refine ⟨rfl, rfl, rfl, rfl, ⟨waits.stage, waits.due⟩, (List.append_nil _).symm,
    Store.held_adopt _ _ _ _ _ _, ?_, ?_⟩
  · intro b h
    apply Store.noted_adopt
    rcases h with h | ⟨place', hmem⟩
    · exact .inr h
    · cases List.mem_singleton.1 hmem
      exact .inl rfl
  · intro h
    have hnoted := h a place List.mem_cons_self
    show (s.store.adopt s.disk now a (UInt64.ofNat place) .none).store = s.store
    rw [Store.adopt_of_noted hnoted]

theorem instructed_one (waits : Waits s) (now : Int64) (x : Action) :
    Instructed [x] s (s.instruct now (.perform x)) := by
  cases x with
  | merge a => exact instructed_enqueue waits now rfl
  | logoutAll => exact instructed_enqueue waits now rfl
  | adopt a place => exact instructed_adopt waits now a place

/-- The agent is told actions one after the other. -/
theorem instructed_foldl (waits : Waits s) (now : Int64) (actions : List Action) :
    Instructed actions s ((actions.map .perform).foldl (System.instruct now) s) := by
  induction actions generalizing s with
  | nil => exact .refl waits
  | cons x actions ih =>
    have hfirst := instructed_one waits now x
    exact hfirst.trans (ih hfirst.waits)

end

/-! ## What the worker has in hand -/

/-- What the worker has in hand, and what is due for it. -/
inductive InHand (v : Server) (store : Store) (queue : List Operation) :
    Stage → List Due → List Action → Prop
  | nothing : InHand v store queue .idle (wakes queue) []
  | minting (a : AccountId) :
      InHand v store queue (.minting a []) [.mint .worker a] [.merge a]
  | refreshing (a : AccountId) (refreshToken : String)
      (known : store.tokenOf a = some refreshToken) :
      InHand v store queue (.minting a []) [.refresh .worker a refreshToken] [.merge a]
  | merging (a : AccountId) (token : String) (owned : v.ownerOf token = some a) :
      InHand v store queue (.merging []) [.change (.merge token)] [.merge a]
  | loggingOut : InHand v store queue (.loggingOut []) [.change .logout] [.logoutAll]

/-- The worker carries actions out that take the session to a final one: `here` is what it has in
hand, and `todo` is what is in its queue. -/
structure Carrying (v : Server) (s : System) (final : List AccountId) (t : System) : Prop where
  store : s.store.Alike t.store
  coordinator : t.coordinator = s.coordinator
  primary : t.primary = s.primary
  work : ∃ here todo, InHand v s.store t.worker.queue t.worker.stage t.due here
    ∧ t.worker.queue = queueOf todo
    ∧ (∀ a, .merge a ∈ here ++ todo → s.store.holds a = true ∧ v.grants a = true)
    ∧ (here ++ todo).foldl onSession t.session = final

/-- How much the worker has still to do. -/
def labour (t : System) : Nat :=
  weights t.due + 4 * t.worker.backlog

section

variable {v : Server} {s t u : System} {final : List AccountId}

theorem progress_same (t : System) (step : Worker × Option WorkerRequest) :
    (t.progress step).store = t.store ∧ (t.progress step).coordinator = t.coordinator
      ∧ (t.progress step).primary = t.primary ∧ (t.progress step).session = t.session
      ∧ (t.progress step).worker = step.1 := by
  unfold System.progress
  dsimp only
  split <;> exact ⟨rfl, rfl, rfl, rfl, rfl⟩

/-- The worker takes something in hand: the next operation of its queue, or nothing if there is
none. -/
theorem exists_takeNext (v : Server) (store : Store) (due : t.due = []) (todo : List Action) :
    let u := t.progress (Worker.takeNext (queueOf todo))
    ∃ here todo', InHand v store u.worker.queue u.worker.stage u.due here
      ∧ u.worker.queue = queueOf todo'
      ∧ (∀ x ∈ here ++ todo', x ∈ todo)
      ∧ (∀ session, (here ++ todo').foldl onSession session = todo.foldl onSession session)
      ∧ labour u ≤ 4 * Worker.opSizes (queueOf todo) := by
  induction todo with
  | nil =>
    refine ⟨[], [], ?_, rfl, fun x hx => hx, fun _ => rfl, ?_⟩
    · show InHand v store [] .idle t.due []
      rw [due]
      exact .nothing
    · show weights t.due + 0 ≤ 0
      rw [due]
      exact Nat.le_refl 0
  | cons x todo ih =>
    cases x with
    | merge a =>
      refine ⟨[.merge a], todo, ?_, rfl, fun x hx => hx, fun _ => rfl, ?_⟩
      · show InHand v store (queueOf todo) (.minting a []) (t.due ++ [.mint .worker a]) _
        rw [due]
        exact .minting a
      · show weights (t.due ++ [.mint .worker a]) + 4 * (Worker.opSizes (queueOf todo) + 1) ≤
          4 * (2 + Worker.opSizes (queueOf todo))
        rw [due]
        show 4 + 4 * (Worker.opSizes (queueOf todo) + 1) ≤ _
        omega
    | logoutAll =>
      refine ⟨[.logoutAll], todo, ?_, rfl, fun x hx => hx, fun _ => rfl, ?_⟩
      · show InHand v store (queueOf todo) (.loggingOut []) (t.due ++ [.change .logout]) _
        rw [due]
        exact .loggingOut
      · show weights (t.due ++ [.change .logout]) + 4 * (Worker.opSizes (queueOf todo) + 0) ≤
          4 * (1 + Worker.opSizes (queueOf todo))
        rw [due]
        show 1 + 4 * (Worker.opSizes (queueOf todo) + 0) ≤ _
        omega
    | adopt a place =>
      obtain ⟨here, todo', hhand, hqueue, hmem, hfold, hlabour⟩ := ih
      exact ⟨here, todo', hhand, hqueue, fun x hx => List.mem_cons_of_mem _ (hmem x hx), hfold,
        hlabour⟩

/-- The worker goes on to the next operation. -/
theorem carrying_takeNext (todo : List Action) (store : s.store.Alike t.store)
    (coordinator : t.coordinator = s.coordinator) (primary : t.primary = s.primary)
    (due : t.due = [])
    (able : ∀ a, .merge a ∈ todo → s.store.holds a = true ∧ v.grants a = true)
    (reaches : todo.foldl onSession t.session = final) :
    let u := t.progress (Worker.takeNext (queueOf todo))
    Carrying v s final u ∧ labour u ≤ 4 * Worker.opSizes (queueOf todo) := by
  intro u
  obtain ⟨here, todo', hhand, hqueue, hmem, hfold, hlabour⟩ := exists_takeNext v s.store due todo
  obtain ⟨hstore, hcoordinator, hprimary, hsession, -⟩ :=
    progress_same t (Worker.takeNext (queueOf todo))
  refine ⟨⟨?_, hcoordinator.trans coordinator, hprimary.trans primary, here, todo', hhand, hqueue,
    fun a ha => able a (hmem _ ha), ?_⟩, hlabour⟩
  · rw [hstore]
    exact store
  · rw [hfold, hsession]
    exact reaches

/-- The worker has an access token and asks for the account to be added. -/
theorem carrying_minted {todo : List Action} {a : AccountId} {token : String}
    (store : s.store.Alike t.store) (coordinator : t.coordinator = s.coordinator)
    (primary : t.primary = s.primary) (due : t.due = [])
    (worker : t.worker = ⟨queueOf todo, .minting a []⟩) (owned : v.ownerOf token = some a)
    (able : ∀ b, .merge b ∈ .merge a :: todo → s.store.holds b = true ∧ v.grants b = true)
    (reaches : (.merge a :: todo).foldl onSession t.session = final) :
    let u := t.progress (t.worker.minted (.ok token))
    Carrying v s final u ∧ labour u ≤ 1 + 4 * Worker.opSizes (queueOf todo) := by
  intro u
  have hu : u = { t with
      worker := ⟨queueOf todo, .merging []⟩
      due := [.change (.merge token)]
      calls := t.calls ++ [.merge token] } := by
    show t.progress (t.worker.minted (.ok token)) = _
    rw [worker]
    show ({ t with
      worker := ⟨queueOf todo, .merging []⟩
      due := t.due ++ [.change (.merge token)]
      calls := t.calls ++ [.merge token] } : System) = _
    rw [due]
    rfl
  rw [hu]
  refine ⟨⟨store, coordinator, primary, [.merge a], todo, .merging a token owned, rfl, able,
    reaches⟩, ?_⟩
  show 1 + 4 * (Worker.opSizes (queueOf todo) + 0) ≤ _
  exact Nat.le_refl _

/-- The session has answered, and the worker goes on to the next operation. -/
theorem carrying_of_change {x : Action} {c : SessionCall} {todo : List Action}
    (h : Carrying v s final t) (answered : t.worker.answered = Worker.takeNext (queueOf todo))
    (effect : v.sessionAfter t.session c = onSession t.session x)
    (able : ∀ a, .merge a ∈ x :: todo → s.store.holds a = true ∧ v.grants a = true)
    (reaches : (x :: todo).foldl onSession t.session = final)
    (serves : v.Serves { t with due := [] } (.change c) u) :
    Carrying v s final u ∧ labour u ≤ 4 * Worker.opSizes (queueOf todo) := by
  cases serves with
  | change c =>
    let e : System := { t with due := [], session := v.sessionAfter t.session c }
    have hable : ∀ a, .merge a ∈ todo → s.store.holds a = true ∧ v.grants a = true :=
      fun a ha => able a (List.mem_cons_of_mem _ ha)
    have hreaches : todo.foldl onSession e.session = final := by
      show todo.foldl onSession (v.sessionAfter t.session c) = final
      rw [effect]
      exact reaches
    have he : s.store.Alike e.store := h.store
    rw [answered]
    exact carrying_takeNext todo he h.coordinator h.primary rfl hable hreaches

section

variable {todo : List Action} {a : AccountId} (h : Carrying v s final t)
  (worker : t.worker = ⟨queueOf todo, .minting a []⟩)
  (able : ∀ b, .merge b ∈ .merge a :: todo → s.store.holds b = true ∧ v.grants b = true)
  (reaches : (.merge a :: todo).foldl onSession t.session = final)
include h worker able reaches

/-- The store has an access token for the worker, or asks the token endpoint for one. -/
theorem carrying_of_mint (serves : v.Serves { t with due := [] } (.mint .worker a) u) :
    Carrying v s final u ∧ labour u ≤ 3 + 4 * (Worker.opSizes (queueOf todo) + 1) := by
  obtain ⟨hholds, -⟩ := able a List.mem_cons_self
  cases serves with
  | unknown now asker b need =>
    rw [← h.store.holds] at hholds
    exact absurd need (Store.begin_ne_unknown hholds now)
  | cached now asker b token need gives =>
    obtain ⟨hnext, hless⟩ := carrying_minted (t := { t with due := [] }) h.store h.coordinator
      h.primary rfl worker gives.2 able reaches
    exact ⟨hnext, Nat.le_trans hless (by omega)⟩
  | asks now asker b refreshToken need =>
    have hknown : s.store.tokenOf a = some refreshToken :=
      (h.store.tokens a).symm.trans (Store.tokenOf_of_begin need)
    have hqueue : t.worker.queue = queueOf todo := by rw [worker]
    refine ⟨⟨h.store, h.coordinator, h.primary, [.merge a], todo, ?_, hqueue, able, reaches⟩, ?_⟩
    · show InHand v s.store t.worker.queue t.worker.stage _ _
      rw [worker]
      exact .refreshing a refreshToken hknown
    · rw [labour, Worker.backlog, worker]
      exact Nat.le_refl _

/-- The token endpoint has answered the worker. -/
theorem carrying_of_refresh {refreshToken : String} (known : s.store.tokenOf a = some refreshToken)
    (serves : v.Serves { t with due := [] } (.refresh .worker a refreshToken) u) :
    Carrying v s final u ∧ labour u ≤ 1 + 4 * Worker.opSizes (queueOf todo) := by
  obtain ⟨-, hgrants⟩ := able a List.mem_cons_self
  cases serves with
  | granted now asker b token g gives keeps =>
    have hknown := (h.store.tokens a).trans known
    have hstore := h.store.trans (Store.alike_settle hknown keeps t.disk now .none)
    exact carrying_minted (t := System.settle now { t with due := [] } a g) hstore h.coordinator
      h.primary rfl worker gives.2 able reaches
  | refused now asker b token e gives =>
    rw [show v.grants a = false from gives] at hgrants
    cases hgrants

end

/-- Whatever is due, the worker goes on with its work and has less of it. -/
theorem carrying_step (h : Carrying v s final t) (leads : v.Leads t u) :
    Carrying v s final u ∧ labour u < labour t := by
  obtain ⟨before, d, after, due, serves⟩ := leads
  obtain ⟨here, todo, hhand, hqueue, able, reaches⟩ := h.work
  have hlabour : labour t = weights t.due + 4 * t.worker.backlog := rfl
  rw [Worker.backlog, hqueue] at hlabour
  rw [hqueue] at hhand
  generalize hstage : t.worker.stage = stage at hhand hlabour
  have hworker : t.worker = ⟨queueOf todo, stage⟩ := by rw [← hqueue, ← hstage]
  rw [due] at hhand hlabour
  generalize hone : before ++ d :: after = one at hhand hlabour
  -- one thing is due at most, and what it is says what the worker has in hand
  cases hhand with
  | nothing =>
    cases hqueueOf : queueOf todo with
    | nil =>
      rw [hqueueOf] at hone
      exact absurd hone (by simp [wakes])
    | cons op rest =>
      rw [hqueueOf] at hone
      obtain ⟨rfl, rfl, rfl⟩ := singleton_eq_append hone.symm
      have hbefore : labour t = 1 + 4 * (Worker.opSizes (queueOf todo) + 0) := by
        rw [hlabour, hqueueOf]
        rfl
      cases serves with
      | wake =>
        have hwake : t.worker.wake = Worker.takeNext (queueOf todo) := by
          rw [hworker]
          rfl
        obtain ⟨hnext, hless⟩ := carrying_takeNext (t := { t with due := [] }) todo h.store
          h.coordinator h.primary rfl able reaches
        rw [hwake]
        exact ⟨hnext, Nat.lt_of_le_of_lt hless (by omega)⟩
  | minting a =>
    obtain ⟨rfl, rfl, rfl⟩ := singleton_eq_append hone.symm
    have hbefore : labour t = 4 + 4 * (Worker.opSizes (queueOf todo) + 1) := hlabour
    obtain ⟨hnext, hless⟩ := carrying_of_mint h hworker able reaches serves
    exact ⟨hnext, by omega⟩
  | refreshing a refreshToken known =>
    obtain ⟨rfl, rfl, rfl⟩ := singleton_eq_append hone.symm
    have hbefore : labour t = 3 + 4 * (Worker.opSizes (queueOf todo) + 1) := hlabour
    obtain ⟨hnext, hless⟩ := carrying_of_refresh h hworker able reaches known serves
    exact ⟨hnext, by omega⟩
  | merging a token owned =>
    obtain ⟨rfl, rfl, rfl⟩ := singleton_eq_append hone.symm
    have hbefore : labour t = 1 + 4 * (Worker.opSizes (queueOf todo) + 0) := hlabour
    have hanswered : t.worker.answered = Worker.takeNext (queueOf todo) := by
      rw [hworker]
      rfl
    have heffect : v.sessionAfter t.session (.merge token) = onSession t.session (.merge a) := by
      rw [Server.sessionAfter, owned]
      rfl
    obtain ⟨hnext, hless⟩ := carrying_of_change h hanswered heffect able reaches serves
    exact ⟨hnext, by omega⟩
  | loggingOut =>
    obtain ⟨rfl, rfl, rfl⟩ := singleton_eq_append hone.symm
    have hbefore : labour t = 1 + 4 * (Worker.opSizes (queueOf todo) + 0) := hlabour
    have hanswered : t.worker.answered = Worker.takeNext (queueOf todo) := by
      rw [hworker]
      rfl
    obtain ⟨hnext, hless⟩ := carrying_of_change h hanswered rfl able reaches serves
    exact ⟨hnext, by omega⟩

/-- The worker goes on with its work until nothing is due. -/
theorem goes_carrying (goes : v.Goes t u) (h : Carrying v s final t) : Carrying v s final u := by
  induction goes with
  | done => exact h
  | next leads _ ih => exact ih (carrying_step h leads).1

/-- When nothing is due any more, the worker has made all changes. -/
theorem carried_out (h : Carrying v s final t) (due : t.due = []) :
    t.worker = {} ∧ t.session = final := by
  obtain ⟨here, todo, hhand, hqueue, -, hreaches⟩ := h.work
  generalize hstage : t.worker.stage = stage at hhand
  rw [due] at hhand
  generalize hnone : ([] : List Due) = none at hhand
  cases hhand with
  | nothing =>
    have hempty : t.worker.queue = [] := by
      cases hqueue' : t.worker.queue with
      | nil => rfl
      | cons op rest =>
        rw [hqueue'] at hnone
        cases hnone
    refine ⟨?_, ?_⟩
    · show t.worker = ⟨[], .idle⟩
      rw [← hempty, ← hstage]
    · rw [← hreaches]
      exact (foldl_onSession (hqueue.symm.trans hempty) t.session).symm
  | minting | refreshing | merging | loggingOut => cases hnone

/-- A worker that carries actions out comes to the end of them. -/
theorem ends_carrying (h : Carrying v s final t) : v.Ends t := by
  refine Server.ends_of_measure (Carrying v s final) labour ?_
    (fun t u ht hleads => .inl (carrying_step ht hleads)) h
  intro t f ht hmem
  obtain ⟨here, todo, hhand, -⟩ := ht.work
  generalize t.worker.queue = queue at hhand
  generalize t.worker.stage = stage at hhand
  generalize t.due = due at hhand hmem
  cases hhand with
  | nothing => cases queue <;> simp [wakes] at hmem
  | minting | refreshing | merging | loggingOut => simp at hmem

end

end SessionSync
