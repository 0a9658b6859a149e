import SessionSync.Proofs.Session.Listing
import SessionSync.Proofs.Store.RefreshTokens
import SessionSync.Simulation.Services

/-!
# Everything wired together

The coordinator, the worker and the credential store of a process, and the server that it talks to.
The server keeps the session; whether it gives an access token of an account and whether it then
tells the owner is the same whenever it is asked (`Server`), while the texts of its answers are not
fixed.

What has been asked for and what waits for its turn is `Due`. Whatever is due may be served next
(`Server.Serves`), at any time of day, so that a run (`Server.Goes`) is any order in which the tasks
get their turns and the answers arrive.

* `Server.Ends` — every run comes to an end, and only where nothing is due; `ends_of_measure` shows
  it by a measure, since whatever is due can be served (`exists_serves`). -/

namespace SessionSync

/-! ## The server -/

/-- What holds of the server whenever it is asked. -/
structure Server where
  /-- The account that an access token belongs to. -/
  ownerOf : String → Option AccountId
  /-- Whether an access token is given for a refresh token of an account. -/
  grants : AccountId → Bool
  /-- Whether the owner of an access token of an account is told. -/
  confirms : AccountId → Bool
  /-- An account for which access tokens are given has one. -/
  token_of_grants : ∀ a, grants a = true → ∃ token, ownerOf token = some a

namespace Server

variable (v : Server)

/-- Whether the credentials of an account work. -/
def works (a : AccountId) : Bool :=
  v.grants a && v.confirms a

/-- An answer to a request for an access token of an account. -/
def Gives (a : AccountId) : Except TokenError String → Prop
  | .ok token => v.grants a = true ∧ v.ownerOf token = some a
  | .error _ => v.grants a = false

/-- An answer to a request for the owner of an access token of an account. -/
def Confirms (a : AccountId) : Except CallError TokenOwner → Prop
  | .ok _ => v.confirms a = true
  | .error _ => v.confirms a = false

/-- The session after a change. -/
def sessionAfter (session : List AccountId) : SessionCall → List AccountId
  | .merge token =>
    match v.ownerOf token with
    | some a => if session.contains a then session else session ++ [a]
    | none => session
  | .logout => []

end Server

/-! ## The system -/

/-- What waits for its turn or for an answer. -/
inductive Due
  /-- A pass that was started. -/
  | launch (flow : Nat)
  /-- The account list for a flow. -/
  | list (flow : Nat)
  /-- A request to the store for an access token. -/
  | mint (asker : Asker) (account : AccountId)
  /-- A request of the store to the token endpoint. -/
  | refresh (asker : Asker) (account : AccountId) (refreshToken : String)
  /-- The owner of an access token for a check. -/
  | identify (flow : Nat) (account : AccountId) (token : String)
  /-- The turn of a worker that has operations to begin with. -/
  | wake
  /-- A change of the session. -/
  | change (call : SessionCall)
  deriving DecidableEq

/-- What a request of the coordinator makes due. -/
def Request.due : Request → Due
  | .list f => .list f
  | .mint f a => .mint (.check f) a
  | .identify f a token => .identify f a token

/-- A process and the session it keeps in step. -/
structure System where
  /-- The coordinator. -/
  coordinator : Coordinator
  /-- The worker. -/
  worker : Worker
  /-- The credential store. -/
  store : Store
  /-- The data directory. -/
  disk : Disk
  /-- The account that is signed in. -/
  primary : Option AccountId
  /-- The accounts of the session, in order. -/
  session : List AccountId
  /-- What waits for its turn or for an answer. -/
  due : List Due
  /-- The changes of the session that were asked for, oldest first. -/
  calls : List SessionCall

namespace System

/-- What the coordinator sees. -/
def surroundings (s : System) : Surroundings :=
  ⟨s.store.accounts, s.primary⟩

/-- The store notes that an account of the session waits for credentials. -/
def adopt (now : Int64) (s : System) (a : AccountId) (place : Nat) : System :=
  let o := s.store.adopt s.disk now a (UInt64.ofNat place) .none
  { s with store := o.store, disk := o.disk }

/-- The store takes over what the token endpoint has granted. -/
def settle (now : Int64) (s : System) (a : AccountId) (g : Grant) : System :=
  let (store, disk) := s.store.settle s.disk now a g .none
  { s with store, disk }

/-- The worker gets one more operation, and its turn if it is idle. -/
def enqueue (s : System) (op : Operation) : System :=
  { s with
    worker := s.worker.enqueue op
    due := if s.worker.stage = .idle ∧ .wake ∉ s.due then s.due ++ [.wake] else s.due }

/-- The agent is told something: an adoption goes to the store, an operation on the session to the
worker. -/
def instruct (now : Int64) (s : System) (c : Instruction) : System :=
  let s :=
    match c with
    | .perform (.adopt a place) => s.adopt now a place
    | _ => s
  match c.operation? with
  | none => s
  | some op => s.enqueue op

/-- Takes over a reaction: the agent is told, and then the services are asked. -/
def react (now : Int64) (s : System) (r : Reaction) : System :=
  let s := r.instructions.foldl (instruct now) { s with coordinator := r.coordinator }
  { s with due := s.due ++ r.requests.map Request.due }

/-- Something happens to the coordinator. -/
def tell (now : Int64) (s : System) (e : CoordinatorEvent) : System :=
  s.react now (s.coordinator.step s.surroundings e)

/-- The server is asked for a change of the session. -/
def call (s : System) (c : SessionCall) : System :=
  { s with due := s.due ++ [.change c], calls := s.calls ++ [c] }

/-- Takes over a step of the worker. -/
def progress (s : System) (step : Worker × Option WorkerRequest) : System :=
  let s := { s with worker := step.1 }
  match step.2 with
  | none => s
  | some (.mint a) => { s with due := s.due ++ [.mint .worker a] }
  | some (.merge token) => s.call (.merge token)
  | some .logout => s.call .logout

/-- An access token, or word that there is none, reaches the one who asked. -/
def answer (now : Int64) (s : System) (a : AccountId) (x : Except TokenError String) :
    Asker → System
  | .check f => s.tell now (.minted f a x)
  | .worker => s.progress (s.worker.minted x)

/-- Starts a pass unless one is in flight. -/
def startPass (s : System) : System :=
  let (coordinator, flow) := s.coordinator.start
  { s with coordinator, due := s.due ++ flow.toList.map .launch }

/-- No pass is in flight, the worker has nothing to do, and nothing is due. -/
structure AtRest (s : System) : Prop where
  idle : s.coordinator.state.started = false
  worker : s.worker = {}
  due : s.due = []

end System

/-! ## Runs -/

namespace Server

variable (v : Server)

/-- Something that was due is served, after it has been taken out of what is due. All files can be
written, and no refresh token is replaced by another. -/
inductive Serves (s : System) : Due → System → Prop
  | launch (now : Int64) (f : Nat) : Serves s (.launch f) (s.tell now (.launch f))
  | list (now : Int64) (f : Nat) (answer : Except CallError String)
      (reads : accountsOfAnswer answer = .ok s.session) :
      Serves s (.list f) (s.tell now (.listed f answer))
  | unknown (now : Int64) (asker : Asker) (a : AccountId) (need : s.store.begin now a = .unknown) :
      Serves s (.mint asker a) (s.answer now a (.error .invalidCredentials) asker)
  | cached (now : Int64) (asker : Asker) (a : AccountId) (token : String)
      (need : s.store.begin now a = .cached token) (gives : v.Gives a (.ok token)) :
      Serves s (.mint asker a) (s.answer now a (.ok token) asker)
  | asks (now : Int64) (asker : Asker) (a : AccountId) (refreshToken : String)
      (need : s.store.begin now a = .refresh refreshToken) :
      Serves s (.mint asker a) { s with due := s.due ++ [.refresh asker a refreshToken] }
  | granted (now : Int64) (asker : Asker) (a : AccountId) (refreshToken : String) (g : Grant)
      (gives : v.Gives a (.ok g.accessToken)) (keeps : ∀ r ∈ g.refreshToken, r = refreshToken) :
      Serves s (.refresh asker a refreshToken)
        ((s.settle now a g).answer now a (.ok g.accessToken) asker)
  | refused (now : Int64) (asker : Asker) (a : AccountId) (refreshToken : String) (e : RefreshError)
      (gives : v.Gives a (.error e.toTokenError)) :
      Serves s (.refresh asker a refreshToken) (s.answer now a (.error e.toTokenError) asker)
  | identify (now : Int64) (f : Nat) (a : AccountId) (token : String)
      (answer : Except CallError TokenOwner) (confirms : v.Confirms a answer) :
      Serves s (.identify f a token) (s.tell now (.identified f a answer))
  | wake : Serves s .wake (s.progress s.worker.wake)
  | change (c : SessionCall) :
      Serves s (.change c)
        ({ s with session := v.sessionAfter s.session c }.progress s.worker.answered)

/-- One of the things that are due is served. -/
def Leads (s t : System) : Prop :=
  ∃ before d after, s.due = before ++ d :: after ∧ v.Serves { s with due := before ++ after } d t

/-- Things that are due are served one after the other, in any order. -/
inductive Goes : System → System → Prop
  | done (s : System) : Goes s s
  | next {s t u : System} (leads : v.Leads s t) (later : Goes t u) : Goes s u

/-- Every run comes to an end, and only where nothing is due. -/
inductive Ends : System → Prop
  | intro {s : System} (free : s.due ≠ [] → ∃ t, v.Leads s t) (later : ∀ t, v.Leads s t → Ends t) :
      Ends s

variable {v} {s t u : System}

theorem due_ne_nil_of_leads (h : v.Leads s t) : s.due ≠ [] := by
  obtain ⟨before, d, after, hdue, -⟩ := h
  rw [hdue]
  simp

theorem Goes.trans (first : v.Goes s t) (second : v.Goes t u) : v.Goes s u := by
  induction first with
  | done => exact second
  | next leads _ ih => exact .next leads (ih second)

/-- Where nothing is due, nothing happens. -/
theorem Goes.eq_of_due_eq_nil (h : v.Goes s t) (due : s.due = []) : t = s := by
  cases h with
  | done => rfl
  | next leads => exact absurd due (due_ne_nil_of_leads leads)

/-- There is a run to where nothing is due. -/
theorem Ends.exists_rest (h : v.Ends s) : ∃ t, v.Goes s t ∧ t.due = [] := by
  induction h with
  | @intro s free later ih =>
    by_cases hdue : s.due = []
    · exact ⟨s, .done s, hdue⟩
    · obtain ⟨t, ht⟩ := free hdue
      obtain ⟨u, hgoes, hu⟩ := ih t ht
      exact ⟨u, .next ht hgoes, hu⟩

/-! ## Every run can go on -/

theorem exists_gives (v : Server) (a : AccountId) : ∃ x, v.Gives a x := by
  cases h : v.grants a with
  | true =>
    obtain ⟨token, htoken⟩ := v.token_of_grants a h
    exact ⟨.ok token, h, htoken⟩
  | false => exact ⟨.error .invalidCredentials, h⟩

theorem exists_confirms (v : Server) (a : AccountId) : ∃ x, v.Confirms a x := by
  cases h : v.confirms a with
  | true => exact ⟨.ok ⟨"", none, none⟩, h⟩
  | false => exact ⟨.error (.network ""), h⟩

/-- The token endpoint has an answer. -/
theorem exists_serves_refresh (v : Server) (s : System) (asker : Asker) (a : AccountId)
    (refreshToken : String) : ∃ t, v.Serves s (.refresh asker a refreshToken) t := by
  cases h : v.grants a with
  | true =>
    obtain ⟨token, htoken⟩ := v.token_of_grants a h
    have hkeeps : ∀ r ∈ (none : Option String), r = refreshToken := by
      intro r hr
      cases hr
    exact ⟨_, .granted 0 asker a refreshToken ⟨token, 0, "", none⟩ ⟨h, htoken⟩ hkeeps⟩
  | false => exact ⟨_, .refused 0 asker a refreshToken (.network "") h⟩

/-- Whatever is due can be served, if the session can be listed where it is asked for. -/
theorem exists_serves (v : Server) {s : System} (d : Due)
    (listed : ∀ f, d = .list f → (∀ a ∈ s.session, a.Proper) ∧ s.session.Nodup) :
    ∃ t, v.Serves s d t := by
  cases d with
  | launch f => exact ⟨_, .launch 0 f⟩
  | list f =>
    obtain ⟨proper, nodup⟩ := listed f rfl
    have hreads : accountsOfAnswer (.ok (sessionBody (s.session.map (·.text)))) =
        .ok s.session := by
      rw [accountsOfAnswer, accountsOfBody_sessionBody proper nodup]
    exact ⟨_, .list 0 f _ hreads⟩
  | mint asker a =>
    obtain ⟨now, hunknown | ⟨refreshToken, hrefresh⟩⟩ := s.store.exists_begin_refresh a
    · exact ⟨_, .unknown now asker a hunknown⟩
    · exact ⟨_, .asks now asker a refreshToken hrefresh⟩
  | refresh asker a refreshToken => exact v.exists_serves_refresh s asker a refreshToken
  | identify f a token =>
    obtain ⟨x, hx⟩ := v.exists_confirms a
    exact ⟨_, .identify 0 f a token x hx⟩
  | wake => exact ⟨_, .wake⟩
  | change c => exact ⟨_, .change c⟩

/-- Runs come to an end if every step keeps an invariant and lowers a measure, until it leads to
where runs come to an end. -/
theorem ends_of_measure (keeps : System → Prop) (measure : System → Nat)
    (listed : ∀ s f, keeps s → .list f ∈ s.due → (∀ a ∈ s.session, a.Proper) ∧ s.session.Nodup)
    (step : ∀ s t, keeps s → v.Leads s t → (keeps t ∧ measure t < measure s) ∨ v.Ends t)
    (h : keeps s) : v.Ends s := by
  induction hn : measure s using Nat.strongRecOn generalizing s with
  | ind n ih =>
    refine .intro (fun hdue => ?_) (fun t ht => ?_)
    · obtain ⟨d, after, hd⟩ := List.exists_cons_of_ne_nil hdue
      have hlisted : ∀ f, d = .list f → (∀ a ∈ s.session, a.Proper) ∧ s.session.Nodup := by
        rintro f rfl
        apply listed s f h
        rw [hd]
        exact List.mem_cons_self
      obtain ⟨t, ht⟩ := v.exists_serves (s := { s with due := [] ++ after }) d hlisted
      exact ⟨t, [], d, after, hd, ht⟩
    · rcases step s t h ht with ⟨hnext, hless⟩ | hends
      · exact ih _ (hn ▸ hless) hnext rfl
      · exact hends

end Server

/-! ## What is due -/

theorem Coordinator.snd_start {c : Coordinator} (idle : c.state.started = false) :
    c.start.2 = some c.nextFlow := by
  rw [start, if_neg (by rw [idle]; exact Bool.false_ne_true)]

/-- A pass that is started where all is at rest is all that is due. -/
theorem System.due_startPass {s : System} (atRest : s.AtRest) :
    s.startPass.due = [.launch s.coordinator.nextFlow] := by
  show s.due ++ s.coordinator.start.2.toList.map Due.launch = _
  rw [atRest.due, Coordinator.snd_start atRest.idle]
  rfl

/-- There is only one way to take something out of what is due if it is only one thing. -/
theorem singleton_eq_append {x d : Due} {before after : List Due}
    (h : [x] = before ++ d :: after) : before = [] ∧ d = x ∧ after = [] := by
  cases before with
  | nil =>
    injection h with hx hafter
    exact ⟨rfl, hx.symm, hafter.symm⟩
  | cons y before => simp at h

/-- How much is still to be done for something that is due: a bound on the answers, counting the
store's own request to the token endpoint. -/
def Due.weight : Due → Nat
  | .launch _ => 1
  | .list _ => 2
  | .mint _ _ => 4
  | .refresh _ _ _ => 3
  | .identify _ _ _ => 2
  | .wake => 1
  | .change _ => 1

/-- How much is still to be done for all that is due. -/
def weights : List Due → Nat
  | [] => 0
  | d :: due => d.weight + weights due

@[simp]
theorem weights_cons (d : Due) (due : List Due) : weights (d :: due) = d.weight + weights due := rfl

@[simp]
theorem weights_append (due more : List Due) :
    weights (due ++ more) = weights due + weights more := by
  induction due with
  | nil => exact (Nat.zero_add _).symm
  | cons d due ih => rw [List.cons_append, weights_cons, weights_cons, ih, Nat.add_assoc]

end SessionSync
