import SessionSync.Proofs.Pass.FlowTurns
import SessionSync.Proofs.Session.WorkerOrder
import SessionSync.Proofs.System.Wiring
import SessionSync.Simulation.Stimulus

/-!
# What happens in a world

In a `World` tasks get their turns in a fixed order, and a credential store and a session that hold
nothing back answer at once. What happens there in a pass, and until the worker has nothing to do
any more, is one of the runs of a system with the same parts.

* `Matches` — a world has the parts of a system, and what is due in the system besides a turn of the
  worker is listed. `Matches.tell` keeps it when something happens to the coordinator.
* `Asking.asks`, `Asking.turnFlow` — the turn of a pass with all its requests.
* `goes_workOn`, `goes_turnWorker` — the turn of the worker with all its requests.
* `System.goes_settle` — a pass in a world, from its start to where no task is ready.
-/

namespace SessionSync

/-! ## What an answer makes the coordinator ask for -/

namespace Coordinator

theorem requests_listed (c : Coordinator) (s : Surroundings) (f : Nat)
    (answer : Except CallError String) : (c.listed s f answer).requests = [] := by
  unfold listed
  dsimp only
  split
  · exact requests_proceed _ _ _ _ _ _
  all_goals rfl

theorem requests_identified (c : Coordinator) (s : Surroundings) (f : Nat) (a : AccountId)
    (answer : Except CallError TokenOwner) : (c.identified s f a answer).requests = [] := by
  unfold identified
  split
  · split <;> exact requests_resolve _ _ _ _ _
  · rfl

/-- With an access token the coordinator asks for its owner, if it waits for one. -/
theorem requests_minted (c : Coordinator) (s : Surroundings) (f : Nat) (a : AccountId)
    (answer : Except TokenError String) :
    (c.minted s f a answer).requests = []
      ∨ ∃ token, answer = .ok token ∧ (c.minted s f a answer).requests = [.identify f a token] := by
  unfold minted
  split
  · cases answer with
    | ok token => exact .inr ⟨token, rfl, rfl⟩
    | error e => exact .inl (requests_resolve _ _ _ _ _)
  · exact .inl rfl

end Coordinator

/-! ## Agreement -/

/-- The services of a world answer at once, and as a server does. The token endpoint is out of reach
there, so that only a token that lasts is given. -/
structure Server.Speaks (v : Server) (now : Int64) (store : Store) (x : ScriptedSession) :
    Prop where
  lists : x.listHeld = false
  tells : x.infoHeld = false
  cached : ∀ a token, store.begin now a = .cached token → v.Gives a (.ok token)
  refused : ∀ a refreshToken, store.begin now a = .refresh refreshToken → v.grants a = false
  owners : ∀ a token, v.ownerOf token = some a → v.Confirms a (x.infoFor token)

/-- A world has the parts of a system. Only the worker may be ready in it, and then its turn is due
in the system, besides the things that are listed. -/
structure System.Matches (v : Server) (now : Int64) (asked : List Due) (s : System) (w : World) :
    Prop where
  time : w.now = now
  coordinator : w.coordinator = s.coordinator
  tokens : w.tokens = .stored s.store s.disk
  worker : w.worker = some s.worker
  primary : w.profile.primary = s.primary
  calls : w.session.changes = s.calls
  answers : w.workerAnswer = none
  speaks : v.Speaks now s.store w.session
  others : .wake ∉ asked
  ready : w.ready = [] ∨ w.ready = [.worker]
  due : s.due.Perm (w.ready.map (fun _ => .wake) ++ asked)

namespace System

section

variable {v : Server} {now : Int64} {asked : List Due} {s : System} {w : World}

theorem Matches.surroundings (h : s.Matches v now asked w) : w.surroundings = s.surroundings := by
  rw [World.surroundings, System.surroundings, h.tokens, h.primary]
  rfl

/-! ### The agent is told something -/

/-- An operation for the worker. -/
theorem Matches.enqueue (h : s.Matches v now asked w) (op : Operation) :
    let x : World := { w with worker := some (s.worker.enqueue op) }
    (s.enqueue op).Matches v now asked (if s.worker.stage = .idle then x.wake .worker else x) := by
  intro x
  by_cases hidle : s.worker.stage = .idle
  · have hdue := h.due
    rw [if_pos hidle]
    rcases h.ready with hready | hready
    · rw [hready] at hdue
      have hx : x.wake .worker = { x with ready := [.worker] } := by
        show (if w.ready.contains _ then x else { x with ready := w.ready ++ [_] }) = _
        rw [hready]
        rfl
      have hs : s.enqueue op =
          { s with worker := s.worker.enqueue op, due := s.due ++ [.wake] } := by
        rw [System.enqueue, if_pos ⟨hidle, fun hmem => h.others (hdue.subset hmem)⟩]
      rw [hx, hs]
      exact { h with
        worker := rfl
        ready := .inr rfl
        due := List.perm_append_comm.trans (hdue.cons _) }
    · rw [hready] at hdue
      have hx : x.wake .worker = x := by
        show (if w.ready.contains _ then x else { x with ready := w.ready ++ [_] }) = _
        rw [hready]
        rfl
      have hold : .wake ∈ s.due := hdue.symm.subset List.mem_cons_self
      have hs : s.enqueue op = { s with worker := s.worker.enqueue op } := by
        rw [System.enqueue, if_neg fun hboth => hboth.2 hold]
      rw [hx, hs]
      exact { h with worker := rfl }
  · have hs : s.enqueue op = { s with worker := s.worker.enqueue op } := by
      rw [System.enqueue, if_neg fun hboth => hidle hboth.1]
    rw [if_neg hidle, hs]
    exact { h with worker := rfl }

/-- The store notes an adoption. -/
theorem Matches.adopt (h : s.Matches v now asked w) (a : AccountId) (place : Nat) :
    (s.adopt now a place).Matches v now asked
      { w with tokens := w.tokens.adopt w.now a place } := by
  have hheld := Store.held_adopt s.store s.disk now a (UInt64.ofNat place) .none
  refine { h with tokens := ?_, speaks := ?_ }
  · show w.tokens.adopt w.now a place = _
    rw [h.tokens, h.time]
    rfl
  · have hbegin : ∀ b, (s.adopt now a place).store.begin now b = s.store.begin now b := by
      intro b
      show Store.begin (s.store.adopt s.disk now a (UInt64.ofNat place) .none).store now b = _
      rw [Store.begin, hheld, Store.begin]
    refine { h.speaks with cached := fun b token => ?_, refused := fun b refreshToken => ?_ }
    · rw [hbegin]
      exact h.speaks.cached b token
    · rw [hbegin]
      exact h.speaks.refused b refreshToken

/-- An instruction has the effect that it has in a world. -/
theorem Matches.instruct (h : s.Matches v now asked w) (c : Instruction) :
    (s.instruct now c).Matches v now asked (w.instruct c) := by
  have hnoted : s.Matches v now asked
      { w with instructions := w.instructions ++ [c], worker := some s.worker } :=
    { h with worker := rfl }
  unfold World.instruct
  rw [h.worker]
  cases c with
  | perform x =>
    cases x with
    | merge a => exact hnoted.enqueue (.merge a)
    | logoutAll => exact hnoted.enqueue .logoutAll
    | adopt a place => exact hnoted.adopt a place
  | startRemoval a => exact hnoted
  | finishRemoval a answer =>
    cases answer with
    | error e => exact hnoted
    | ok session =>
      unfold System.instruct
      by_cases hmem : session.contains a = true
      · have hoperation : (Instruction.finishRemoval a (.ok session)).operation? =
            some (.logoutAccount a session) := if_pos hmem
        rw [hoperation]
        exact hnoted.enqueue (.logoutAccount a session)
      · have hoperation : (Instruction.finishRemoval a (.ok session)).operation? = none :=
          if_neg hmem
        rw [hoperation]
        exact hnoted

theorem Matches.instructAll (h : s.Matches v now asked w) (l : List Instruction) :
    (l.foldl (System.instruct now) s).Matches v now asked (w.instructAll l) := by
  induction l generalizing s w with
  | nil => exact h
  | cons c l ih => exact ih (h.instruct c)

/-! ### Frames -/

theorem session_worldInstruct (w : World) (c : Instruction) :
    (w.instruct c).session = w.session := by
  unfold World.instruct World.wake
  dsimp only
  repeat' split
  all_goals rfl

theorem session_instructAll (w : World) (l : List Instruction) :
    (w.instructAll l).session = w.session := by
  induction l generalizing w with
  | nil => rfl
  | cons c l ih => exact (ih (w.instruct c)).trans (session_worldInstruct w c)

theorem session_instruct (s : System) (c : Instruction) :
    (s.instruct now c).session = s.session := by
  unfold System.instruct
  dsimp only
  repeat' split
  all_goals rfl

theorem session_foldl (s : System) (l : List Instruction) :
    (l.foldl (System.instruct now) s).session = s.session := by
  induction l generalizing s with
  | nil => rfl
  | cons c l ih => exact (ih (s.instruct now c)).trans (session_instruct s c)

theorem session_tell (s : System) (e : CoordinatorEvent) :
    (s.tell now e).session = s.session :=
  session_foldl _ _

/-! ### What is due -/

theorem Matches.perm {others : List Due} (h : s.Matches v now asked w) (perm : asked.Perm others) :
    s.Matches v now others w :=
  { h with
    others := fun hmem => h.others (perm.symm.subset hmem)
    due := h.due.trans (perm.append_left _) }

/-- Something more is due. -/
theorem Matches.push {d : Due} (h : s.Matches v now asked w) (other : d ≠ .wake) :
    ({ s with due := s.due ++ [d] } : System).Matches v now (d :: asked) w := by
  refine { h with others := fun hmem => ?_, due := ?_ }
  · rcases List.mem_cons.1 hmem with heq | hmem
    · exact other heq.symm
    · exact h.others hmem
  · have hmove : (s.due ++ [d]).Perm (d :: s.due) := List.perm_append_comm
    exact hmove.trans ((h.due.cons d).trans List.perm_middle.symm)

/-- What is due can be served next. -/
theorem Matches.leads {d : Due} (h : s.Matches v now (d :: asked) w) :
    ∃ rest, ({ s with due := rest } : System).Matches v now asked w
      ∧ ∀ t, v.Serves { s with due := rest } d t → v.Goes s t := by
  have hdue := h.due.trans List.perm_middle
  obtain ⟨before, after, heq⟩ := List.append_of_mem (hdue.symm.subset List.mem_cons_self)
  rw [heq] at hdue
  refine ⟨before ++ after, ?_, fun t ht => .next ⟨before, d, after, heq, ht⟩ (.done t)⟩
  exact { h with
    others := fun hmem => h.others (List.mem_cons_of_mem _ hmem)
    due := (List.perm_middle.symm.trans hdue).cons_inv }

/-- Something happens to the coordinator: the agent is told the same, and what is asked for then is
due. -/
theorem Matches.tell (h : s.Matches v now asked w) (e : CoordinatorEvent) :
    let r := w.coordinator.step w.surroundings e
    (s.tell now e).Matches v now (asked ++ r.requests.map Request.due) (w.accept r) := by
  intro r
  have hr : s.coordinator.step s.surroundings e = r := by
    rw [← h.surroundings, ← h.coordinator]
  have hstart : ({ s with coordinator := r.coordinator } : System).Matches v now asked
      { w with coordinator := r.coordinator } :=
    { h with coordinator := rfl }
  have hall := hstart.instructAll r.instructions
  rw [System.tell, hr]
  refine { hall with others := fun hmem => ?_, due := ?_ }
  · rcases List.mem_append.1 hmem with hmem | hmem
    · exact hall.others hmem
    · obtain ⟨q, -, hq⟩ := List.mem_map.1 hmem
      cases q <;> cases hq
  · rw [← List.append_assoc]
    exact hall.due.append_right _

/-! ### Requests -/

/-- The answer of a credential store whose token endpoint is out of reach. -/
theorem ask_stored (store : Store) (disk : Disk) (a : AccountId) (asker : Asker) :
    (TokenSource.stored store disk).ask now a asker =
      (.stored store disk, some (match store.begin now a with
        | .unknown => .error .invalidCredentials
        | .cached token => .ok token
        | .refresh _ => .error (RefreshError.network "endpoint unreachable").toTokenError)) := by
  unfold TokenSource.ask Store.requestToken
  dsimp only
  cases store.begin now a <;> rfl

/-- A request for an access token is answered at once. -/
theorem goes_mint {asker : Asker} {a : AccountId}
    (h : s.Matches v now (.mint asker a :: asked) w) :
    ∃ x rest, w.tokens.ask w.now a asker = (w.tokens, some x)
      ∧ (∀ token, x = .ok token → v.ownerOf token = some a)
      ∧ ({ s with due := rest } : System).Matches v now asked w
      ∧ v.Goes s (({ s with due := rest } : System).answer now a x asker) := by
  obtain ⟨rest, hrest, hgo⟩ := h.leads
  rw [h.time, h.tokens, ask_stored]
  cases hneed : s.store.begin now a with
  | unknown =>
    refine ⟨_, rest, rfl, ?_, hrest, hgo _ (.unknown now asker a hneed)⟩
    intro token heq
    cases heq
  | cached token =>
    have hgives := h.speaks.cached a token hneed
    refine ⟨_, rest, rfl, ?_, hrest, hgo _ (.cached now asker a token hneed hgives)⟩
    intro token' heq
    cases heq
    exact hgives.2
  | refresh refreshToken =>
    have hrefused :
        v.Gives a (.error (RefreshError.network "endpoint unreachable").toTokenError) :=
      h.speaks.refused a refreshToken hneed
    have hother : Due.refresh asker a refreshToken ≠ .wake := by
      intro heq
      cases heq
    have hfirst := hgo _ (.asks now asker a refreshToken hneed)
    obtain ⟨rest', hrest', hgo'⟩ := (hrest.push hother).leads
    refine ⟨_, rest', rfl, ?_, hrest',
      hfirst.trans (hgo' _ (.refused now asker a refreshToken _ hrefused))⟩
    intro token heq
    cases heq

/-- What a world and a system have in common while a pass asks: the session that is listed is the
one that the server keeps. -/
structure Asking (v : Server) (now : Int64) (asked : List Due) (s : System) (w : World) : Prop
    extends s.Matches v now asked w where
  reads : accountsOfAnswer w.session.listAnswer = .ok s.session

theorem Asking.tell (h : s.Asking v now asked w) (e : CoordinatorEvent) :
    let r := w.coordinator.step w.surroundings e
    (s.tell now e).Asking v now (asked ++ r.requests.map Request.due) (w.accept r) := by
  refine ⟨h.toMatches.tell e, ?_⟩
  rw [session_tell, World.accept, session_instructAll]
  exact h.reads

/-- An answer after which the coordinator asks for nothing more. -/
theorem Asking.told (h : s.Asking v now asked w) {e : CoordinatorEvent}
    (quiet : (w.coordinator.step w.surroundings e).requests = []) :
    (s.tell now e).Asking v now asked (w.accept (w.coordinator.step w.surroundings e)) := by
  have htell := h.tell e
  dsimp only at htell
  rw [quiet, List.map_nil, List.append_nil] at htell
  exact htell

/-- How often a session was asked makes no difference. -/
theorem Asking.counted (h : s.Asking v now asked w) (lists infos : Nat) :
    s.Asking v now asked
      { w with session := { w.session with listCalls := lists, infoCalls := infos } } :=
  { h with speaks := { h.speaks with } }

theorem Asking.list {f : Nat} (h : s.Asking v now (.list f :: asked) w) :
    ∃ t, v.Goes s t ∧ t.Asking v now asked (w.askList f) := by
  obtain ⟨rest, hrest, hgo⟩ := h.toMatches.leads
  let answer : Except CallError String := w.session.listAnswer
  let x : World := { w with session := { w.session with listCalls := w.session.listCalls + 1 } }
  have hx : ({ s with due := rest } : System).Asking v now asked x :=
    Asking.counted ⟨hrest, h.reads⟩ _ w.session.infoCalls
  have hanswer : w.session.askList f = (x.session, some answer) :=
    if_neg (by rw [h.speaks.lists]; exact Bool.false_ne_true)
  have hask : w.askList f = x.accept (x.coordinator.listed x.surroundings f answer) := by
    unfold World.askList
    rw [hanswer]
  rw [hask]
  exact ⟨_, hgo _ (.list now f answer h.reads),
    hx.told (e := .listed f answer) (Coordinator.requests_listed _ _ _ _)⟩

theorem Asking.identify {f : Nat} {a : AccountId} {token : String}
    (h : s.Asking v now (.identify f a token :: asked) w) (owned : v.ownerOf token = some a) :
    ∃ t, v.Goes s t ∧ t.Asking v now asked (w.askInfo f a token) := by
  obtain ⟨rest, hrest, hgo⟩ := h.toMatches.leads
  let answer : Except CallError TokenOwner := w.session.infoFor token
  let x : World := { w with session := { w.session with infoCalls := w.session.infoCalls + 1 } }
  have hx : ({ s with due := rest } : System).Asking v now asked x :=
    Asking.counted ⟨hrest, h.reads⟩ w.session.listCalls _
  have hanswer : w.session.askInfo f a token = (x.session, some answer) :=
    if_neg (by rw [h.speaks.tells]; exact Bool.false_ne_true)
  have hask : w.askInfo f a token =
      x.accept (x.coordinator.identified x.surroundings f a answer) := by
    unfold World.askInfo
    rw [hanswer]
  rw [hask]
  exact ⟨_, hgo _ (.identify now f a token answer (h.speaks.owners a token owned)),
    hx.told (e := .identified f a answer) (Coordinator.requests_identified _ _ _ _ _)⟩

theorem Asking.mint {f : Nat} {a : AccountId}
    (h : s.Asking v now (.mint (.check f) a :: asked) w) :
    ∃ t, v.Goes s t ∧ t.Asking v now asked (w.askToken f a) := by
  obtain ⟨x, rest, hask, howned, hrest, hgoes⟩ := goes_mint h.toMatches
  have hasking : ({ s with due := rest } : System).Asking v now asked w := ⟨hrest, h.reads⟩
  have hworld : w.askToken f a =
      w.acceptToken (w.coordinator.minted w.surroundings f a x) := by
    unfold World.askToken
    rw [hask]
  rw [hworld, World.acceptToken]
  rcases Coordinator.requests_minted w.coordinator w.surroundings f a x with hquiet | hnext
  · rw [hquiet]
    exact ⟨_, hgoes, hasking.told (e := .minted f a x) hquiet⟩
  · obtain ⟨token, hx, hrequests⟩ := hnext
    have htell := hasking.tell (.minted f a x)
    dsimp only at htell
    rw [show (w.coordinator.step w.surroundings (.minted f a x)).requests = _ from hrequests]
      at htell
    obtain ⟨t, hgoes', ht⟩ := Asking.identify
      ⟨htell.toMatches.perm List.perm_append_comm, htell.reads⟩ (howned token hx)
    rw [hrequests]
    exact ⟨t, hgoes.trans hgoes', ht⟩

/-- The requests with which a pass begins are answered one after the other. -/
theorem Asking.asks {requests : List Request} (h : s.Asking v now (requests.map Request.due) w)
    (first : ∀ f a token, .identify f a token ∉ requests) :
    ∃ t, v.Goes s t ∧ t.Asking v now [] (requests.foldl World.ask w) := by
  induction requests generalizing s w with
  | nil => exact ⟨s, .done s, h⟩
  | cons q requests ih =>
    have hone : ∃ t, v.Goes s t ∧ t.Asking v now (requests.map Request.due) (w.ask q) := by
      cases q with
      | list f => exact h.list
      | mint f a => exact h.mint
      | identify f a token => exact absurd List.mem_cons_self (first f a token)
    obtain ⟨t, hgoes, ht⟩ := hone
    obtain ⟨u, hgoes', hu⟩ := ih ht fun f a token hmem =>
      first f a token (List.mem_cons_of_mem _ hmem)
    exact ⟨u, hgoes.trans hgoes', hu⟩

/-- A pass gets its turn. -/
theorem Asking.turnFlow {f p : Nat} (h : s.Asking v now [] w)
    (queued : w.coordinator.flow? f = some (.queued p)) :
    ∃ t, v.Goes (s.tell now (.launch f)) t ∧ t.Asking v now [] (w.turnFlow f) := by
  have hworld : w.turnFlow f = w.react (w.coordinator.launch w.surroundings f) := by
    unfold World.turnFlow
    rw [queued]
  have hfirst : ∀ g a token,
      .identify g a token ∉ (w.coordinator.launch w.surroundings f).requests := by
    intro g a token hmem
    unfold Coordinator.launch at hmem
    rw [queued] at hmem
    rcases List.mem_cons.1 hmem with heq | hmem
    · cases heq
    · obtain ⟨b, -, heq⟩ := List.mem_map.1 hmem
      cases heq
  rw [hworld]
  exact Asking.asks (h.tell (.launch f)) hfirst

/-! ### The worker -/

theorem Matches.ready_eq_nil (h : s.Matches v now [] w) (due : s.due = []) : w.ready = [] := by
  have hdue := h.due
  rw [due, List.append_nil] at hdue
  exact List.map_eq_nil_iff.1 (List.nil_perm.1 hdue)

theorem Matches.due_eq_nil (h : s.Matches v now [] w) (ready : w.ready = []) : s.due = [] := by
  have hdue := h.due
  rw [ready] at hdue
  exact List.perm_nil.1 hdue

theorem Matches.working (h : s.Matches v now asked w) (worker : Worker) :
    ({ s with worker := worker } : System).Matches v now asked { w with worker := some worker } :=
  { h with worker := rfl }

/-- A change of the session is asked for and made. -/
theorem goes_call (h : s.Matches v now [] w) (worker : Worker) (c : SessionCall) :
    ∃ u : System, u.Matches v now []
        { w with worker := some worker, session := w.session.change c }
      ∧ v.Goes (({ s with worker := worker } : System).call c) (u.progress worker.answered) := by
  have hcalled : ({ s with worker := worker, calls := s.calls ++ [c] } : System).Matches v now []
      { w with worker := some worker, session := w.session.change c } :=
    { h with worker := rfl, calls := congrArg (· ++ [c]) h.calls, speaks := { h.speaks with } }
  have hother : Due.change c ≠ .wake := by
    intro heq
    cases heq
  obtain ⟨rest, hrest, hgo⟩ := (hcalled.push hother).leads
  refine ⟨{ s with
      worker := worker
      calls := s.calls ++ [c]
      due := rest
      session := v.sessionAfter s.session c }, { hrest with }, hgo _ (.change c)⟩

/-- The worker goes on until it has nothing to do any more. -/
theorem goes_workOn {fuel : Nat} (h : s.Matches v now [] w) (ready : w.ready = [])
    {step : Worker × Option WorkerRequest} (enough : Worker.ahead step ≤ fuel) :
    ∃ t, v.Goes (s.progress step) t ∧ t.due = []
      ∧ t.Matches v now [] (World.workOn fuel w step) := by
  induction fuel generalizing s w step with
  | zero =>
    obtain ⟨worker, request⟩ := step
    cases request with
    | none =>
      exact ⟨{ s with worker := worker }, .done _, h.due_eq_nil ready, h.working worker⟩
    | some r => exact absurd enough (Nat.not_succ_le_zero _)
  | succ fuel ih =>
    obtain ⟨worker, request⟩ := step
    cases request with
    | none =>
      exact ⟨{ s with worker := worker }, .done _, h.due_eq_nil ready, h.working worker⟩
    | some r =>
      have hless : worker.backlog ≤ fuel := Nat.le_of_succ_le_succ enough
      cases r with
      | merge token =>
        obtain ⟨u, hu, hgo⟩ := goes_call h worker (.merge token)
        obtain ⟨t, hgoes, hdue, ht⟩ :=
          ih hu ready (Nat.le_trans (Worker.ahead_answered worker) hless)
        exact ⟨t, hgo.trans hgoes, hdue, ht⟩
      | logout =>
        obtain ⟨u, hu, hgo⟩ := goes_call h worker .logout
        obtain ⟨t, hgoes, hdue, ht⟩ :=
          ih hu ready (Nat.le_trans (Worker.ahead_answered worker) hless)
        exact ⟨t, hgo.trans hgoes, hdue, ht⟩
      | mint a =>
        have hother : Due.mint .worker a ≠ .wake := by
          intro heq
          cases heq
        obtain ⟨x, rest, hask, -, hrest, hgo⟩ := goes_mint ((h.working worker).push hother)
        obtain ⟨t, hgoes, hdue, ht⟩ :=
          ih hrest ready (Nat.le_trans (Worker.ahead_minted worker x) hless)
        have hworld : World.workOn (fuel + 1) w (worker, some (.mint a)) =
            World.workOn fuel { w with worker := some worker } (worker.minted x) := by
          rw [World.workOn]
          dsimp only at hask ⊢
          rw [hask]
        rw [hworld]
        exact ⟨t, hgo.trans hgoes, hdue, ht⟩

/-- The worker gets its turn. -/
theorem goes_turnWorker (h : s.Matches v now [] w) (ready : w.ready = [.worker]) :
    ∃ t, v.Goes s t ∧ t.due = []
      ∧ t.Matches v now [] ({ w with ready := [] } : World).turnWorker := by
  have hdue : s.due = [.wake] := by
    have hperm := h.due
    rw [ready] at hperm
    exact List.perm_singleton.1 hperm
  have hrest : ({ s with due := [] } : System).Matches v now [] { w with ready := [] } :=
    { h with ready := .inl rfl, due := .refl _ }
  have hlead : v.Leads s (({ s with due := [] } : System).progress s.worker.wake) :=
    ⟨[], .wake, [], hdue, .wake⟩
  have hturn : ({ w with ready := [] } : World).turnWorker =
      World.workOn (s.worker.backlog + 2) { w with ready := [] } s.worker.wake := by
    unfold World.turnWorker
    dsimp only
    rw [h.worker, h.answers]
  rw [hturn]
  obtain ⟨t, hgoes, ht⟩ := goes_workOn hrest rfl
    (Nat.le_add_right_of_le (Worker.ahead_wake s.worker))
  exact ⟨t, .next hlead hgoes, ht⟩

/-! ### From the start of a pass -/

theorem run_of_rest (ready : w.ready = []) (fuel : Nat) : World.run fuel w = w := by
  cases fuel with
  | zero => rfl
  | succ fuel => rw [World.run, ready]

/-- Turns are given in a world in which at most the worker is ready. -/
theorem goes_run (h : s.Matches v now [] w) (fuel : Nat) :
    ∃ t, v.Goes s t ∧ t.due = [] ∧ t.Matches v now [] (World.run (fuel + 1) w) := by
  rcases h.ready with hready | hready
  · rw [run_of_rest hready]
    exact ⟨s, .done s, h.due_eq_nil hready, h⟩
  · obtain ⟨t, hgoes, hdue, ht⟩ := goes_turnWorker h hready
    have hrun : World.run (fuel + 1) w = ({ w with ready := [] } : World).turnWorker := by
      rw [World.run, hready]
      exact run_of_rest (ht.ready_eq_nil hdue) fuel
    rw [hrun]
    exact ⟨t, hgoes, hdue, ht⟩

end

end System

theorem exists_turnsAhead (w : World) : ∃ fuel, w.turnsAhead = fuel + 2 := by
  refine ⟨w.turnsAhead - 2, ?_⟩
  unfold World.turnsAhead
  dsimp only
  omega

/-- A world in which nothing has happened matches a system in which nothing has happened. -/
theorem System.asking_new {v : Server} {now : Int64} {store : Store} {x : ScriptedSession}
    {session : List AccountId} (disk : Disk) (profile : Profile) (speaks : v.Speaks now store x)
    (reads : accountsOfAnswer x.listAnswer = .ok session) (unasked : x.changes = []) :
    let s : System := ⟨{}, {}, store, disk, profile.primary, session, [], []⟩
    let w : World := World.new (.stored store disk) true profile now none
    s.Asking v now [] { w with session := x } :=
  { time := rfl
    coordinator := rfl
    tokens := rfl
    worker := rfl
    primary := rfl
    calls := unasked
    answers := rfl
    speaks := speaks
    others := List.not_mem_nil
    ready := .inl rfl
    due := .refl _
    reads := reads }

/-- A pass that is started in a world where no task is ready, and whatever follows until none is
again, is a run of a system with the same parts, to where nothing is due. -/
theorem System.goes_settle {v : Server} {now : Int64} {s : System} {w : World}
    (h : s.Asking v now [] w) (coherent : Coordinator.Coherent s.coordinator) (atRest : s.AtRest) :
    ∃ t, v.Goes s.startPass t ∧ t.due = [] ∧ t.Matches v now [] w.startPass.1.settle := by
  let c : Coordinator := s.coordinator.start.1
  let f : Nat := s.coordinator.nextFlow
  have hflow : s.coordinator.start.2 = some f := Coordinator.snd_start atRest.idle
  have hqueued : c.flow? f = some (.queued (s.coordinator.state.passId + 1)) :=
    (Coordinator.waiting_start coherent atRest.idle s.surroundings).flow
  have hready : w.ready = [] := h.toMatches.ready_eq_nil atRest.due
  -- The same moment on both sides: the pass has been started, and its turn has been taken out.
  let s' : System := { s with coordinator := c, due := [] }
  let w' : World := { w with coordinator := c, ready := [] }
  have hturn : s'.Asking v now [] w' :=
    { h with coordinator := rfl, ready := .inl rfl, due := .refl _ }
  have hlead : v.Leads s.startPass (s'.tell now (.launch f)) :=
    ⟨[], .launch f, [], System.due_startPass atRest, .launch now f⟩
  have hstarted : w.startPass.1 = { w' with ready := [.flow f] } := by
    unfold World.startPass
    rw [h.coordinator]
    dsimp only
    rw [hflow]
    show ({ w with coordinator := c, ready := w.ready ++ [.flow f] } : World) = _
    rw [hready]
    rfl
  obtain ⟨t, hgoes, ht⟩ := hturn.turnFlow hqueued
  obtain ⟨fuel, hfuel⟩ := exists_turnsAhead w.startPass.1
  obtain ⟨u, hgoes', hdue, hu⟩ := goes_run ht.toMatches fuel
  have hsettle : w.startPass.1.settle = World.run (fuel + 1) (w'.turnFlow f) := by
    rw [World.settle, hfuel, hstarted]
    rfl
  rw [hsettle]
  exact ⟨u, .next hlead (hgoes.trans hgoes'), hdue, hu⟩

end SessionSync
