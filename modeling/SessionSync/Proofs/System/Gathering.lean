import SessionSync.Proofs.Pass.CompletionOrder
import SessionSync.Proofs.System.Wiring

/-!
# A pass gathers its answers

From its start to its last answer a pass only asks. Its answers are not known beforehand, but at
every moment there are `Answers` that agree with the server and with what has arrived (`Fits`), and
for those the pass is `Underway`; an answer that arrives takes the place of the one that was
foreseen (`Underway.refit`).

* `Collecting` — the invariant: nothing but access tokens has changed, and what is due is what the
  pass waits for. `collecting_step` keeps it and lowers `weights`, or the pass is decided.
* `Decided` — the last answer has arrived, and the agent is told the plan.
* `goes_gathering`, `ends_gathering` — the same from the start of a pass, for whole runs.
-/

namespace SessionSync

open Coordinator

/-! ## Answers that agree with the server -/

namespace Server

/-- Answers that agree with the server. -/
structure Fits (v : Server) (w : Answers) : Prop where
  token : ∀ a, v.Gives a (w.token a)
  owner : ∀ token a, v.ownerOf token = some a → v.Confirms a (w.owner token)

variable {v : Server} {w : Answers} {a : AccountId}

/-- There are answers that agree with a server. -/
theorem exists_fits (v : Server) : ∃ w, v.Fits w := by
  obtain ⟨token, htoken⟩ := Classical.axiomOfChoice v.exists_gives
  obtain ⟨told, htold⟩ := Classical.axiomOfChoice v.exists_confirms
  refine ⟨⟨.error (.network ""), token,
    fun text => ((v.ownerOf text).map told).getD (.error (.network ""))⟩, htoken, ?_⟩
  intro text a howner
  show v.Confirms a (((v.ownerOf text).map told).getD _)
  rw [howner]
  exact htold a

/-- The two answers about an account are good exactly when its credentials work. -/
theorem Fits.works (h : v.Fits w) (a : AccountId) : w.works a = v.works a := by
  have htoken := h.token a
  unfold Answers.works Server.works
  cases hx : w.token a with
  | error e =>
    rw [hx] at htoken
    rw [show v.grants a = false from htoken]
    rfl
  | ok token =>
    rw [hx] at htoken
    obtain ⟨hgrants, howner⟩ := htoken
    have hconfirms := h.owner token a howner
    rw [hgrants]
    dsimp only
    cases hy : w.owner token with
    | ok owner =>
      rw [hy] at hconfirms
      exact (show v.confirms a = true from hconfirms).symm
    | error e =>
      rw [hy] at hconfirms
      exact (show v.confirms a = false from hconfirms).symm

/-- Another access token of an account. -/
theorem Fits.with_token (h : v.Fits w) {x : Except TokenError String} (gives : v.Gives a x) :
    v.Fits { w with token := fun b => if b = a then x else w.token b } := by
  refine ⟨fun b => ?_, h.owner⟩
  show v.Gives b (if b = a then x else w.token b)
  by_cases hb : b = a
  · rw [if_pos hb, hb]
    exact gives
  · rw [if_neg hb]
    exact h.token b

/-- Another answer about the owner of an access token. -/
theorem Fits.with_owner (h : v.Fits w) {token : String} (owned : v.ownerOf token = some a)
    {x : Except CallError TokenOwner} (confirms : v.Confirms a x) :
    v.Fits { w with owner := fun t => if t = token then x else w.owner t } := by
  refine ⟨h.token, fun t b howner => ?_⟩
  show v.Confirms b (if t = token then x else w.owner t)
  by_cases ht : t = token
  · subst ht
    rw [if_pos rfl]
    rw [owned] at howner
    injection howner with hab
    exact hab ▸ confirms
  · rw [if_neg ht]
    exact h.owner t b howner

end Server

/-- A pass in its course does not know which of the answers to come are foreseen. -/
theorem Coordinator.Underway.refit {s : Surroundings} {w w' : Answers} {f p : Nat} {listDue : Bool}
    {checks : Checks} {c : Coordinator} (h : Underway s w f p listDue checks c)
    (works : ∀ a, w'.works a = w.works a)
    (reading : listDue = false → w'.reading = w.reading)
    (known : ∀ a token, (a, .identifying token) ∈ checks → w'.token a = .ok token) :
    Underway s w' f p listDue checks c := by
  refine ⟨h.toSecluded, h.flow, h.waiting, h.nodup, h.held, known, ?_⟩
  obtain ⟨hpassId, hstarted, hreading, htokens, hvalid, hinvalid⟩ := h.learned
  refine ⟨hpassId, hstarted, ?_, htokens, ?_, ?_⟩
  · rw [hreading]
    cases listDue with
    | true => rfl
    | false => exact (reading rfl).symm
  · intro a
    rw [works]
    exact hvalid a
  · intro a
    rw [works]
    exact hinvalid a

/-! ## What is due to a pass -/

/-- The request of the coordinator for which something is due, if there is one. -/
def Due.request? : Due → Option Request
  | .list f => some (.list f)
  | .mint (.check f) a => some (.mint f a)
  | .refresh (.check f) a _ => some (.mint f a)
  | .identify f a token => some (.identify f a token)
  | _ => none

theorem map_request? (requests : List Request) :
    (requests.map Request.due).map Due.request? = requests.map some := by
  rw [List.map_map]
  apply List.map_congr_left
  intro q _
  cases q <;> rfl

theorem weights_requests (requests : List Request) :
    weights (requests.map Request.due) = 2 * roundsLeft requests := by
  induction requests with
  | nil => rfl
  | cons q requests ih =>
    have hq : q.due.weight = 2 * q.rounds := by cases q <;> rfl
    rw [List.map_cons, weights_cons, ih, hq, roundsLeft_cons, Nat.mul_add]

theorem rounds_le_weight {d : Due} {q : Request} (h : d.request? = some q) :
    2 * q.rounds ≤ d.weight + 1 := by
  unfold Due.request? at h
  split at h <;> cases h <;> simp [Request.rounds, Due.weight]

/-! ## The invariant -/

/-- Nothing but access tokens has changed, as far as the coordinator is not concerned. -/
structure System.Still (s t : System) : Prop where
  store : s.store.Alike t.store
  worker : t.worker = s.worker
  primary : t.primary = s.primary
  session : t.session = s.session
  calls : t.calls = s.calls

theorem System.Still.surroundings {s t : System} (h : s.Still t) :
    t.surroundings = s.surroundings := by
  unfold System.surroundings
  rw [h.store.accounts, h.primary]

theorem System.Still.moved {s t : System} (h : s.Still t) (c : Coordinator) (due : List Due) :
    s.Still { t with coordinator := c, due := due } :=
  ⟨h.store, h.worker, h.primary, h.session, h.calls⟩

/-- A pass that waits for answers, those foreseen that agree with what has arrived, and whatever is
due besides some requests that are left out. -/
structure Halfway (v : Server) (s : System) (f p : Nat) (w : Answers) (listDue : Bool)
    (checks : Checks) (out : List Request) (t : System) : Prop where
  still : s.Still t
  fits : v.Fits w
  reads : listDue = false → accountsOfAnswer w.list = .ok s.session
  underway : Underway s.surroundings w f p listDue checks t.coordinator
  due : (out.map some ++ t.due.map Due.request?).Perm ((dueOf f listDue checks).map some)
  refreshes : ∀ asker a refreshToken, .refresh asker a refreshToken ∈ t.due →
    s.store.tokenOf a = some refreshToken

/-- A pass that waits for answers. -/
def Collecting (v : Server) (s : System) (f p : Nat) (t : System) : Prop :=
  ∃ w listDue checks, Halfway v s f p w listDue checks [] t

/-- A pass that has its last answer: with nothing due any more, the agent is told the plan. -/
def Decided (v : Server) (s t : System) : Prop :=
  ∃ now w e, s.Still e ∧ e.due = [] ∧ Coherent e.coordinator ∧ e.coordinator.state.started = false
    ∧ v.Fits w ∧ accountsOfAnswer w.list = .ok s.session
    ∧ t = (dispatched s.surroundings w).foldl (System.instruct now) e

section

variable {v : Server} {s t : System} {f p : Nat} {w : Answers} {listDue : Bool} {checks : Checks}

/-! ## One answer -/

/-- The answers that are foreseen may change as long as they agree with what has arrived. -/
theorem Halfway.refit {out : List Request} {w' : Answers}
    (h : Halfway v s f p w listDue checks out t) (fits : v.Fits w')
    (list : listDue = false → w'.list = w.list)
    (known : ∀ a token, (a, .identifying token) ∈ checks → w'.token a = .ok token) :
    Halfway v s f p w' listDue checks out t := by
  refine ⟨h.still, fits, fun hdue => ?_, ?_, h.due, h.refreshes⟩
  · rw [list hdue]
    exact h.reads hdue
  · refine h.underway.refit (fun a => ?_) (fun hdue => ?_) known
    · rw [fits.works, h.fits.works]
    · rw [Answers.reading, Answers.reading, list hdue]

/-- What is left out of what is due is due to a request of the pass. -/
theorem Halfway.out_mem {q : Request} (h : Halfway v s f p w listDue checks [q] t) :
    q ∈ dueOf f listDue checks := by
  obtain ⟨q', hq', heq⟩ := List.mem_map.1 (h.due.subset List.mem_cons_self)
  injection heq with heq
  exact heq ▸ hq'

/-- An answer to a request has arrived: the pass goes on with less to be done, or it is decided. -/
def Advances (v : Server) (s : System) (f p : Nat) (q : Request) (t u : System) : Prop :=
  (Collecting v s f p u ∧ weights u.due + 2 ≤ weights t.due + 2 * q.rounds) ∨ Decided v s u

/-- An answer arrives as it was foreseen. -/
theorem advances_tell {q : Request} (h : Halfway v s f p w listDue checks [q] t)
    (reads : ∀ g, q = .list g → accountsOfAnswer w.list = .ok s.session) (now : Int64) :
    Advances v s f p q t (t.tell now (w.event q)) := by
  have hq := h.out_mem
  obtain ⟨listDue', checks', hperm, hrounds, hwent⟩ := underway_answer h.underway hq
  let r : Reaction := t.coordinator.step s.surroundings (w.event q)
  have hu : t.tell now (w.event q) = t.react now r := by
    rw [System.tell, h.still.surroundings]
  have hreads : listDue' = false → accountsOfAnswer w.list = .ok s.session := by
    intro hdue'
    cases hdue : listDue with
    | false => exact h.reads hdue
    | true =>
      have hlist : Request.list f ∈ q :: dueOf f listDue' checks' := by
        apply hperm.symm.subset
        exact List.mem_append_left _ (mem_dueOf.2 (.inl ⟨hdue, rfl⟩))
      rcases List.mem_cons.1 hlist with heq | hmem
      · exact reads f heq.symm
      · rcases mem_dueOf.1 hmem with ⟨hdue'', -⟩ | ⟨a, k, -, heq⟩
        · rw [hdue'] at hdue''
          cases hdue''
        · cases k <;> cases heq
  have hdue : (t.due.map Due.request? ++ r.requests.map some).Perm
      ((dueOf f listDue' checks').map some) := by
    apply List.Perm.cons_inv (a := some q)
    have hall : (some q :: (dueOf f listDue' checks').map some).Perm
        ((dueOf f listDue checks).map some ++ r.requests.map some) := by
      rw [← List.map_append]
      exact hperm.map some
    exact (h.due.append_right _).trans hall.symm
  rcases hwent with ⟨hnext, htold⟩ | ⟨hend, hstate, htold⟩
  · have hu' : t.tell now (w.event q) = { t with
        coordinator := r.coordinator
        due := t.due ++ r.requests.map Request.due } := by
      rw [hu, System.react, htold]
      rfl
    rw [hu']
    refine .inl ⟨⟨w, listDue', checks', ?_⟩, ?_⟩
    · refine ⟨h.still.moved _ _, h.fits, hreads, hnext, ?_, ?_⟩
      · rw [List.map_nil, List.nil_append, List.map_append, map_request?]
        exact hdue
      · intro asker a refreshToken hmem
        rcases List.mem_append.1 hmem with hmem | hmem
        · exact h.refreshes asker a refreshToken hmem
        · obtain ⟨q', -, hq'⟩ := List.mem_map.1 hmem
          cases q' <;> cases hq'
    · rw [weights_append, weights_requests]
      have : roundsLeft r.requests < q.rounds := hrounds
      omega
  · rw [hend] at hdue
    obtain ⟨hnone, hasks⟩ := List.append_eq_nil_iff.1 (List.perm_nil.1 hdue)
    have hlistDue : listDue' = false := by
      cases hcase : listDue' with
      | false => rfl
      | true =>
        rw [hcase] at hend
        cases hend
    refine .inr ⟨now, w, { t with coordinator := r.coordinator }, h.still.moved _ _,
      List.map_eq_nil_iff.1 hnone, h.underway.coherent.react ⟨s.surroundings, w.event q⟩, ?_,
      h.fits, hreads hlistDue, ?_⟩
    · show r.coordinator.state.started = false
      rw [hstate]
      rfl
    · rw [hu, System.react, htold, List.map_eq_nil_iff.1 hasks, List.map_nil]
      simp only [List.append_nil]

/-- Something is taken out of what is due. -/
theorem Halfway.take {before after : List Due} {d : Due} {q : Request}
    (h : Halfway v s f p w listDue checks [] t) (due : t.due = before ++ d :: after)
    (request : d.request? = some q) :
    Halfway v s f p w listDue checks [q] { t with due := before ++ after } := by
  refine ⟨h.still.moved _ _, h.fits, h.reads, h.underway, ?_, ?_⟩
  · have hall := h.due
    rw [due, List.map_nil, List.nil_append, List.map_append, List.map_cons, request] at hall
    refine List.Perm.trans ?_ hall
    show (some q :: List.map _ (before ++ after)).Perm _
    rw [List.map_append]
    exact List.perm_middle.symm
  · intro asker a refreshToken hmem
    apply h.refreshes asker a refreshToken
    rw [due]
    rcases List.mem_append.1 hmem with hmem | hmem
    · exact List.mem_append_left _ hmem
    · exact List.mem_append_right _ (List.mem_cons_of_mem _ hmem)

/-- Whatever is due to a pass that waits for answers is due to a request of it. -/
theorem Halfway.request {d : Due} (h : Halfway v s f p w listDue checks [] t) (hd : d ∈ t.due) :
    ∃ q, d.request? = some q ∧ q ∈ dueOf f listDue checks := by
  have hmem : d.request? ∈ t.due.map Due.request? := List.mem_map_of_mem hd
  obtain ⟨q, hq, heq⟩ := List.mem_map.1 (h.due.subset (List.mem_append_right _ hmem))
  exact ⟨q, heq.symm, hq⟩

/-- The account list arrives. -/
theorem advances_list {g : Nat} (h : Halfway v s f p w listDue checks [.list g] t)
    {answer : Except CallError String} (reads : accountsOfAnswer answer = .ok s.session)
    (now : Int64) : Advances v s f p (.list g) t (t.tell now (.listed g answer)) := by
  have hdue : listDue = true := by
    rcases mem_dueOf.1 h.out_mem with ⟨hdue, -⟩ | ⟨a, k, -, heq⟩
    · exact hdue
    · cases k <;> cases heq
  have hfits : v.Fits { w with list := answer } := ⟨h.fits.token, h.fits.owner⟩
  have hrefit := h.refit hfits (fun hnot => by rw [hdue] at hnot; cases hnot) h.underway.known
  exact advances_tell hrefit (fun _ _ => reads) now

/-- An access token arrives, or word that there is none. -/
theorem advances_minted {g : Nat} {a : AccountId}
    (h : Halfway v s f p w listDue checks [.mint g a] t) {x : Except TokenError String}
    (gives : v.Gives a x) (now : Int64) :
    Advances v s f p (.mint g a) t (t.tell now (.minted g a x)) := by
  have hminting : t.coordinator.check? f a = some .minting := by
    rcases mem_dueOf.1 h.out_mem with ⟨-, heq⟩ | ⟨b, k, hk, heq⟩
    · cases heq
    · cases k with
      | minting =>
        cases heq
        exact h.underway.check? hk
      | identifying token => cases heq
  let w' : Answers := { w with token := fun b => if b = a then x else w.token b }
  have hknown : ∀ b token, (b, .identifying token) ∈ checks → w'.token b = .ok token := by
    intro b token hb
    have hne : b ≠ a := by
      rintro rfl
      rw [h.underway.check? hb] at hminting
      cases hminting
    exact (if_neg hne).trans (h.underway.known b token hb)
  have hevent : w'.event (.mint g a) = .minted g a x :=
    congrArg (CoordinatorEvent.minted g a) (if_pos rfl)
  have hrefit := h.refit (h.fits.with_token gives) (fun _ => rfl) hknown
  rw [← hevent]
  exact advances_tell hrefit (fun _ heq => by cases heq) now

/-- The owner of an access token arrives, or word that there is none. -/
theorem advances_identified {g : Nat} {a : AccountId} {token : String}
    (h : Halfway v s f p w listDue checks [.identify g a token] t)
    {x : Except CallError TokenOwner} (confirms : v.Confirms a x) (now : Int64) :
    Advances v s f p (.identify g a token) t (t.tell now (.identified g a x)) := by
  have howned : v.ownerOf token = some a := by
    rcases mem_dueOf.1 h.out_mem with ⟨-, heq⟩ | ⟨b, k, hk, heq⟩
    · cases heq
    · cases k with
      | minting => cases heq
      | identifying token' =>
        cases heq
        have hgives := h.fits.token a
        rw [h.underway.known a token hk] at hgives
        exact hgives.2
  let w' : Answers := { w with owner := fun t => if t = token then x else w.owner t }
  have hevent : w'.event (.identify g a token) = .identified g a x :=
    congrArg (CoordinatorEvent.identified g a) (if_pos rfl)
  have hrefit := h.refit (h.fits.with_owner howned confirms) (fun _ => rfl) h.underway.known
  rw [← hevent]
  exact advances_tell hrefit (fun _ heq => by cases heq) now

/-! ## One step -/

theorem Halfway.holds {out : List Request} (h : Halfway v s f p w listDue checks out t) {g : Nat}
    {a : AccountId} (hq : .mint g a ∈ dueOf f listDue checks) : t.store.holds a = true := by
  rw [h.still.store.holds, ← Store.mem_accounts]
  rcases mem_dueOf.1 hq with ⟨-, heq⟩ | ⟨b, k, hk, heq⟩
  · cases heq
  · cases k <;> cases heq
    exact h.underway.held (a, .minting) hk

/-- The store has asked the token endpoint. -/
theorem Halfway.asks {g : Nat} {a : AccountId} {refreshToken : String}
    (h : Halfway v s f p w listDue checks [.mint g a] t)
    (known : t.store.tokenOf a = some refreshToken) :
    Halfway v s f p w listDue checks []
      { t with due := t.due ++ [.refresh (.check g) a refreshToken] } := by
  refine ⟨h.still.moved _ _, h.fits, h.reads, h.underway, ?_, ?_⟩
  · apply List.Perm.trans _ h.due
    rw [List.map_nil, List.nil_append, List.map_append]
    exact List.perm_append_comm
  · intro asker b token hmem
    rcases List.mem_append.1 hmem with hmem | hmem
    · exact h.refreshes asker b token hmem
    · cases List.mem_singleton.1 hmem
      rw [← h.still.store.tokens]
      exact known

/-- The store has the answer of the token endpoint. -/
theorem Halfway.settle {out : List Request} (h : Halfway v s f p w listDue checks out t)
    {a : AccountId} {refreshToken : String} (known : s.store.tokenOf a = some refreshToken)
    {g : Grant} (keeps : ∀ r ∈ g.refreshToken, r = refreshToken) (now : Int64) :
    Halfway v s f p w listDue checks out (t.settle now a g) := by
  have hknown : t.store.tokenOf a = some refreshToken := (h.still.store.tokens a).trans known
  have hstore := h.still.store.trans (Store.alike_settle hknown keeps t.disk now .none)
  exact ⟨⟨hstore, h.still.worker, h.still.primary, h.still.session, h.still.calls⟩, h.fits, h.reads,
    h.underway, h.due, h.refreshes⟩

/-- A pass that waits for answers goes on waiting, with less to be done, or it is decided. -/
theorem collecting_step {u : System} (h : Collecting v s f p t) (leads : v.Leads t u) :
    (Collecting v s f p u ∧ weights u.due < weights t.due) ∨ Decided v s u := by
  obtain ⟨w, listDue, checks, h⟩ := h
  obtain ⟨before, d, after, due, serves⟩ := leads
  have hd : d ∈ t.due := by
    rw [due]
    exact List.mem_append_right _ List.mem_cons_self
  obtain ⟨q, hrequest, hq⟩ := h.request hd
  have htake := h.take due hrequest
  have hweights : weights t.due = weights (before ++ after) + d.weight := by
    rw [due]
    simp only [weights_append, weights_cons]
    omega
  have hgoal : Advances v s f p q { t with due := before ++ after } u →
      (Collecting v s f p u ∧ weights u.due < weights t.due) ∨ Decided v s u := by
    rintro (⟨hnext, hless⟩ | hdecided)
    · have hrounds := rounds_le_weight hrequest
      dsimp only at hless
      exact .inl ⟨hnext, by omega⟩
    · exact .inr hdecided
  cases serves with
  | launch now g => cases hrequest
  | list now g answer reads =>
    cases hrequest
    rw [show ({ t with due := before ++ after } : System).session = s.session from
      h.still.session] at reads
    exact hgoal (advances_list htake reads now)
  | unknown now asker a need =>
    cases asker with
    | worker => cases hrequest
    | check g =>
      cases hrequest
      exact absurd need (Store.begin_ne_unknown (htake.holds hq) now)
  | cached now asker a token need gives =>
    cases asker with
    | worker => cases hrequest
    | check g =>
      cases hrequest
      exact hgoal (advances_minted htake gives now)
  | asks now asker a refreshToken need =>
    cases asker with
    | worker => cases hrequest
    | check g =>
      cases hrequest
      refine .inl ⟨⟨w, listDue, checks, htake.asks (Store.tokenOf_of_begin need)⟩, ?_⟩
      rw [hweights]
      show weights (before ++ after ++ [.refresh (.check g) a refreshToken]) < _ + 4
      rw [weights_append]
      exact Nat.lt_succ_self _
  | granted now asker a refreshToken grant gives keeps =>
    cases asker with
    | worker => cases hrequest
    | check g =>
      cases hrequest
      have hknown := h.refreshes _ _ _ hd
      exact hgoal (advances_minted (htake.settle hknown keeps now) gives now)
  | refused now asker a refreshToken e gives =>
    cases asker with
    | worker => cases hrequest
    | check g =>
      cases hrequest
      exact hgoal (advances_minted htake gives now)
  | identify now g a token answer confirms =>
    cases hrequest
    exact hgoal (advances_identified htake confirms now)
  | wake => cases hrequest
  | change c => cases hrequest

/-! ## From the start to the last answer -/

/-- A pass that has been started and is not decided: it waits for its turn or for answers. -/
def Gathering (v : Server) (s : System) (f p : Nat) (t : System) : Prop :=
  (s.Still t ∧ Waiting f p t.coordinator ∧ t.due = [.launch f]) ∨ Collecting v s f p t

/-- A pass that is started where all is at rest waits for its turn. -/
theorem gathering_start (v : Server) {s : System} (coherent : Coherent s.coordinator)
    (atRest : s.AtRest) :
    Gathering v s s.coordinator.nextFlow (s.coordinator.state.passId + 1) s.startPass := by
  have hwaiting := waiting_start coherent atRest.idle s.surroundings
  exact .inl ⟨⟨.refl s.store, rfl, rfl, rfl, rfl⟩, hwaiting, System.due_startPass atRest⟩

/-- With its turn a pass asks for what it needs. -/
theorem collecting_launch (still : s.Still t) (waiting : Waiting f p t.coordinator)
    (due : t.due = []) (now : Int64) : Collecting v s f p (t.tell now (.launch f)) := by
  obtain ⟨w, hfits⟩ := v.exists_fits
  obtain ⟨hnext, hrequests, htold⟩ := underway_launch (w := w) waiting
    (s := s.surroundings) (Catalog.nodup_accounts _)
  let r : Reaction := t.coordinator.step s.surroundings (.launch f)
  have hu : t.tell now (.launch f) = { t with
      coordinator := r.coordinator
      due := r.requests.map Request.due } := by
    rw [System.tell, still.surroundings, System.react, htold, due]
    rfl
  rw [hu]
  refine ⟨w, true, checksOf s.surroundings, still.moved _ _, hfits, fun hnot => (by cases hnot),
    hnext, ?_, ?_⟩
  · rw [List.map_nil, List.nil_append, map_request?, ← hrequests]
  · intro asker a refreshToken hmem
    obtain ⟨q, -, hq⟩ := List.mem_map.1 hmem
    cases q <;> cases hq

/-- A pass that waits for its turn gets it. -/
theorem collecting_of_waiting {u : System} (still : s.Still t) (waiting : Waiting f p t.coordinator)
    (launch : t.due = [.launch f]) (leads : v.Leads t u) : Collecting v s f p u := by
  obtain ⟨before, d, after, due, serves⟩ := leads
  rw [launch] at due
  obtain ⟨rfl, rfl, rfl⟩ := singleton_eq_append due
  cases serves with
  | launch now g => exact collecting_launch (still.moved t.coordinator []) waiting rfl now

theorem gathering_step {u : System} (h : Gathering v s f p t) (leads : v.Leads t u) :
    Gathering v s f p u ∨ Decided v s u := by
  rcases h with ⟨hstill, hwaiting, hlaunch⟩ | hcollecting
  · exact .inl (.inr (collecting_of_waiting hstill hwaiting hlaunch leads))
  · rcases collecting_step hcollecting leads with ⟨hnext, -⟩ | hdecided
    · exact .inl (.inr hnext)
    · exact .inr hdecided

/-- A pass waits for its turn or for answers until it is decided. -/
theorem goes_gathering {u : System} (goes : v.Goes t u) (h : Gathering v s f p t) :
    Gathering v s f p u ∨ ∃ d, Decided v s d ∧ v.Goes d u := by
  induction goes with
  | done => exact .inl h
  | next leads later ih =>
    rcases gathering_step h leads with hnext | hdecided
    · exact ih hnext
    · exact .inr ⟨_, hdecided, later⟩

theorem Collecting.due_ne_nil (h : Collecting v s f p t) : t.due ≠ [] := by
  obtain ⟨w, listDue, checks, h⟩ := h
  intro hnone
  have hall := h.due
  rw [hnone] at hall
  exact h.underway.waiting (List.map_eq_nil_iff.1 (List.nil_perm.1 hall))

theorem Gathering.still (h : Gathering v s f p t) : s.Still t := by
  rcases h with ⟨hstill, -, -⟩ | ⟨w, listDue, checks, h⟩
  · exact hstill
  · exact h.still

/-- While a pass waits, something is due. -/
theorem Gathering.due_ne_nil (h : Gathering v s f p t) : t.due ≠ [] := by
  rcases h with ⟨-, -, hlaunch⟩ | hcollecting
  · rw [hlaunch]
    exact List.cons_ne_nil _ _
  · exact hcollecting.due_ne_nil

/-- A pass comes to its end if what follows its decision does. -/
theorem ends_gathering (proper : ∀ a ∈ s.session, a.Proper) (nodup : s.session.Nodup)
    (decided : ∀ d, Decided v s d → v.Ends d) (h : Gathering v s f p t) : v.Ends t := by
  have hcollecting : ∀ t, Collecting v s f p t → v.Ends t := by
    intro t ht
    refine Server.ends_of_measure (Collecting v s f p) (fun t => weights t.due) ?_ ?_ ht
    · rintro t g ⟨w, listDue, checks, ht⟩ -
      rw [ht.still.session]
      exact ⟨proper, nodup⟩
    · intro t u ht hleads
      rcases collecting_step ht hleads with hnext | hdecided
      · exact .inl hnext
      · exact .inr (decided u hdecided)
  rcases h with ⟨hstill, hwaiting, hlaunch⟩ | h
  · refine .intro (fun _ => ?_) (fun u hleads => ?_)
    · exact ⟨_, [], .launch f, [], hlaunch, .launch 0 f⟩
    · exact hcollecting u (collecting_of_waiting hstill hwaiting hlaunch hleads)
  · exact hcollecting t h

end

end SessionSync
