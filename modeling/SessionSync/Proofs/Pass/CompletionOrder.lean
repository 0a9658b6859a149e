import SessionSync.Proofs.Pass.Answers
import SessionSync.Proofs.Pass.StalePasses

/-!
# The order of the answers

What a pass comes to depends on the answers that it gets and not on their order. Whatever is due may
happen at any time after it has become due (`Served`), and meanwhile starts are refused and older
flows get their answers (`Aside`).

* `Underway` — a pass with some of its answers due; `underway_answer` takes it through one answer
  and `secluded_aside` through everything else.
* `served_atWork` — the invariant in the course of a pass, by induction on the order.
* `outcome_of_every_order` — every order leads to the reference, and none gets stuck.
-/

namespace SessionSync.Coordinator

/-! ## Orders -/

/-- What happens besides a pass in flight: a start, which is refused, or something for another flow
that is no removal. -/
def Aside (c : Coordinator) (f : Nat) (e : CoordinatorEvent) : Prop :=
  c.state.started = true ∧
    (e = .start ∨ ∃ g, e.target? = some g ∧ g ≠ f ∧ ∀ a, c.role? g ≠ some (.removal a))

/-- What is due happens in some order, and what it asks for is due in its turn: `told` is what the
agent is told on the way, and `rest` is what is due in the end. -/
inductive Served (s : Surroundings) (w : Answers) (f : Nat) :
    Coordinator → List CoordinatorEvent → List Instruction → Coordinator → List CoordinatorEvent →
      Prop
  | done (c : Coordinator) (due : List CoordinatorEvent) : Served s w f c due [] c due
  | next {c : Coordinator} {before after : List CoordinatorEvent} (e : CoordinatorEvent)
      {told : List Instruction} {d : Coordinator} {rest : List CoordinatorEvent}
      (later : Served s w f (c.step s e).coordinator
        (before ++ after ++ (c.step s e).requests.map w.event) told d rest) :
      Served s w f c (before ++ e :: after) ((c.step s e).instructions ++ told) d rest
  | aside {c : Coordinator} {due : List CoordinatorEvent} (e : CoordinatorEvent)
      (he : c.Aside f e) {told : List Instruction} {d : Coordinator} {rest : List CoordinatorEvent}
      (later : Served s w f (c.step s e).coordinator due told d rest) :
      Served s w f c due ((c.step s e).instructions ++ told) d rest

/-! ## A pass by itself -/

/-- No flow but that of the pass records anything for it. -/
structure Secluded (p : Nat) (c : Coordinator) : Prop where
  coherent : Coherent c
  passId : c.state.passId = p
  triggers : ∀ g, c.role? g ≠ some (.trigger p)

/-- A pass that waits for answers, and what it knows. -/
structure Underway (s : Surroundings) (w : Answers) (f p : Nat) (listDue : Bool) (checks : Checks)
    (c : Coordinator) : Prop extends Secluded p c where
  flow : c.flow? f = some (.pass p listDue checks)
  waiting : dueOf f listDue checks ≠ []
  nodup : (checks.map Prod.fst).Nodup
  held : ∀ e ∈ checks, e.1 ∈ s.held
  known : ∀ a token, (a, .identifying token) ∈ checks → w.token a = .ok token
  learned : Learned s w p listDue checks c.state

/-- A pass that has not asked for anything yet. -/
structure Waiting (f p : Nat) (c : Coordinator) : Prop extends Secluded p c where
  flow : c.flow? f = some (.queued p)
  state : c.state = .begin p

section

variable {c : Coordinator} {s : Surroundings} {w : Answers} {f p : Nat} {listDue : Bool}
  {checks : Checks}

/-- What comes for a flow begins no other. -/
theorem role?_of_target (hc : Coherent c) {m : Moment} {g : Nat} (target : m.event.target? = some g)
    (h : Nat) {role : Role} (hrole : (c.react m).coordinator.role? h = some role) :
    c.role? h = some role := by
  by_cases hne : h = g
  · subst hne
    cases hbefore : c.role? h with
    | none => rw [react_of_gone target hbefore, hbefore] at hrole; cases hrole
    | some r =>
      rcases role?_react hc m (lt_nextFlow hc hbefore) with hr | hr
      · rw [← hbefore, ← hr, hrole]
      · rw [hr] at hrole; cases hrole
  · unfold role? at hrole ⊢
    rwa [flow?_react_of_ne target hne] at hrole

theorem Secluded.react (h : Secluded p c) {m : Moment} {g : Nat}
    (target : m.event.target? = some g) (passId : (c.react m).coordinator.state.passId = p) :
    Secluded p (c.react m).coordinator :=
  ⟨h.coherent.react m, passId, fun k hk => h.triggers k (role?_of_target h.coherent target k hk)⟩

/-- Nothing besides the pass has an effect on it. -/
theorem secluded_aside (h : Secluded p c) (role : c.role? f = some (.pass p)) {e : CoordinatorEvent}
    (he : c.Aside f e) :
    Secluded p (c.step s e).coordinator ∧ (c.step s e).coordinator.state = c.state
      ∧ (c.step s e).coordinator.flow? f = c.flow? f ∧ (c.step s e).instructions = [] := by
  obtain ⟨hstarted, rfl | ⟨g, target, hne, hremoval⟩⟩ := he
  · have hkeep : c.start.1 = c := by rw [start, if_pos hstarted]
    show Secluded p c.start.1 ∧ _
    rw [hkeep]
    exact ⟨h, congrArg state hkeep, congrArg (flow? · f) hkeep, rfl⟩
  · let m : Moment := ⟨s, e⟩
    have hinert : Inert c (c.react m) := by
      cases hg : c.role? g with
      | none => exact inert_of_gone target hg
      | some r =>
        cases r with
        | pass q =>
          refine react_of_stale target (.inl hg) fun hq => hne ?_
          exact h.coherent.unique g f p (by rw [hg, ← hq, h.passId]) role
        | trigger q =>
          refine react_of_stale target (.inr hg) fun hq => h.triggers g ?_
          rw [hg, ← hq, h.passId]
        | removal a => exact absurd hg (hremoval a)
    have hpassId : (c.react m).coordinator.state.passId = p := by rw [hinert.1, h.passId]
    have hflow : (c.react m).coordinator.flow? f = c.flow? f :=
      flow?_react_of_ne target hne.symm
    exact ⟨h.react target hpassId, hinert.1, hflow, hinert.2⟩

/-! ## One answer -/

theorem target_event {q : Request} (h : q ∈ dueOf f listDue checks) :
    (w.event q).target? = some f := by
  rcases mem_dueOf.1 h with ⟨-, rfl⟩ | ⟨a, k, -, rfl⟩
  · rfl
  · cases k <;> rfl

/-- A pass goes on: it waits, or it has come to the reference. -/
def WentOn (s : Surroundings) (w : Answers) (f p : Nat) (listDue : Bool) (checks : Checks)
    (r : Reaction) : Prop :=
  (Underway s w f p listDue checks r.coordinator ∧ r.instructions = []) ∨
    (dueOf f listDue checks = [] ∧ r.coordinator.state = outcome s w p
      ∧ r.instructions = dispatched s w)

theorem dueOf_eq_nil : dueOf f listDue checks = [] ↔ (!listDue && checks.isEmpty) = true := by
  unfold dueOf
  cases listDue <;> cases checks <;> simp

/-- What is known decides how the pass goes on. -/
theorem wentOn_proceed (h : Secluded p c) {m : Moment} (target : m.event.target? = some f)
    {d : Coordinator} (reaction : c.react m = d.proceed s f p listDue checks)
    (flow : (d.flow? f).isSome = true) (nodup : (checks.map Prod.fst).Nodup)
    (held : ∀ e ∈ checks, e.1 ∈ s.held)
    (known : ∀ a token, (a, .identifying token) ∈ checks → w.token a = .ok token)
    (learned : Learned s w p listDue checks d.state) :
    WentOn s w f p listDue checks (c.react m) := by
  unfold WentOn
  by_cases hdone : (!listDue && checks.isEmpty) = true
  · rw [reaction, proceed, if_pos hdone]
    obtain ⟨rfl, rfl⟩ : listDue = false ∧ checks = [] := by simpa using hdone
    refine .inr ⟨rfl, ?_, ?_⟩
    · rw [state_finish, learned.started, learned.passId, ← learned.outcome]
      simp
    · rw [instructions_finish, ← learned.dispatched]
      simp [learned.passId, learned.started]
  · rw [proceed, if_neg hdone] at reaction
    have hpassId : (c.react m).coordinator.state.passId = p := by
      rw [reaction]
      exact learned.passId
    have hsecluded := h.react target hpassId
    rw [reaction] at hsecluded ⊢
    refine .inl ⟨⟨hsecluded, ?_, mt dueOf_eq_nil.1 hdone, nodup, held, known, learned⟩, rfl⟩
    obtain ⟨fl, hfl⟩ := Option.isSome_iff_exists.1 flow
    show (d.update f _).flow? f = _
    rw [flow?_update, if_pos rfl, hfl]
    rfl

theorem requests_proceed (c : Coordinator) (s : Surroundings) (f p : Nat) (listDue : Bool)
    (checks : Checks) : (c.proceed s f p listDue checks).requests = [] := by
  unfold proceed finish
  dsimp only
  split
  · split <;> rfl
  · rfl

theorem resolve_of_pass (h : c.flow? f = some (.pass p listDue checks)) (s : Surroundings)
    (a : AccountId) (v : Validity) :
    c.resolve s f a v =
      ((c.recordCheck s p a v).closeChecks p (checks.filter (·.1 ≠ a))).proceed s f p listDue
        (checks.filter (·.1 ≠ a)) := by
  simp only [resolve, h, Option.bind_some, Flow.checks?, continueWith, flow?_recordCheck]

theorem identify_of_pass (h : c.flow? f = some (.pass p listDue checks)) (a : AccountId)
    (token : String) :
    c.identify f a token = c.update f (.pass p listDue (advanced checks a token)) := by
  unfold identify
  rw [h]
  rfl

theorem Underway.check? (h : Underway s w f p listDue checks c) {a : AccountId} {k : Check}
    (hk : (a, k) ∈ checks) : c.check? f a = some k := by
  simp only [Coordinator.check?, h.flow, Option.bind_some, Flow.checks?, find?_of_mem h.nodup hk,
    Option.map_some]

/-- The answer about the session takes a pass further. -/
theorem underway_listed (h : Underway s w f p true checks c) :
    WentOn s w f p false checks (c.listed s f w.list) := by
  let m : Moment := ⟨s, .listed f w.list⟩
  have reaction : c.react m = (c.learnAnswer p w.list).proceed s f p false checks :=
    listed_of_pass h.flow s w.list
  refine wentOn_proceed h.toSecluded rfl reaction ?_ h.nodup h.held h.known h.learned.answer
  rw [flow?_learnAnswer, h.flow]
  rfl

/-- The end of a check takes a pass further. -/
theorem underway_resolve (h : Underway s w f p listDue checks c) {a : AccountId} {k : Check}
    (hk : (a, k) ∈ checks) {m : Moment} (target : m.event.target? = some f)
    (reaction : c.react m = c.resolve s f a (verdict w a)) :
    WentOn s w f p listDue (checks.filter (·.1 ≠ a)) (c.react m) := by
  rw [resolve_of_pass h.flow] at reaction
  refine wentOn_proceed h.toSecluded target reaction ?_ ?_ ?_ ?_ ?_
  · rw [flow?_closeChecks, flow?_recordCheck, h.flow]
    rfl
  · exact h.nodup.sublist (List.filter_sublist.map Prod.fst)
  · exact fun e he => h.held e (List.mem_filter.1 he).1
  · exact fun b token hb => h.known b token (List.mem_filter.1 hb).1
  · exact h.learned.record (h.held (a, k) hk) fun hsettled => hsettled (a, k) hk rfl

/-- An access token takes a check to its owner. -/
theorem underway_identify (h : Underway s w f p listDue checks c) {a : AccountId} {token : String}
    (hk : (a, .minting) ∈ checks) (htoken : w.token a = .ok token) {m : Moment}
    (target : m.event.target? = some f)
    (reaction : (c.react m).coordinator = c.identify f a token) :
    Underway s w f p listDue (advanced checks a token) (c.react m).coordinator := by
  rw [identify_of_pass h.flow] at reaction
  have hpassId : (c.react m).coordinator.state.passId = p := by rw [reaction]; exact h.passId
  have hsecluded := h.react target hpassId
  have hempty : (advanced checks a token).isEmpty = checks.isEmpty := List.isEmpty_map
  rw [reaction] at hsecluded ⊢
  refine ⟨hsecluded, ?_, ?_, ?_, ?_, ?_, ?_⟩
  · rw [flow?_update, if_pos rfl, h.flow]
    rfl
  · rw [Ne, dueOf_eq_nil, hempty, ← dueOf_eq_nil (f := f)]
    exact h.waiting
  · rw [fst_advanced]
    exact h.nodup
  · intro e he
    rcases mem_advanced he with rfl | he
    · exact h.held (a, .minting) hk
    · exact h.held e he
  · intro b t hb
    rcases mem_advanced hb with hb | hb
    · injection hb with hba ht
      injection ht with ht
      rw [hba, ht, htoken]
    · exact h.known b t hb
  · exact h.learned.of_same_accounts hempty fun b => settled_advanced checks a b token

/-- One answer has arrived: it is no longer due, what is asked for in return leads to fewer answers,
and the pass has gone on. -/
def Answered (s : Surroundings) (w : Answers) (f p : Nat) (due : List Request) (q : Request)
    (r : Reaction) : Prop :=
  ∃ listDue checks, (q :: dueOf f listDue checks).Perm (due ++ r.requests)
    ∧ roundsLeft r.requests < q.rounds ∧ WentOn s w f p listDue checks r

theorem answered_resolve (h : Underway s w f p listDue checks c) {a : AccountId} {k : Check}
    (hk : (a, k) ∈ checks) {m : Moment} (target : m.event.target? = some f)
    (reaction : c.react m = c.resolve s f a (verdict w a)) :
    Answered s w f p (dueOf f listDue checks) (k.request f a) (c.react m) := by
  have hrequests : (c.react m).requests = [] := by
    rw [reaction, resolve_of_pass h.flow, requests_proceed]
  refine ⟨listDue, checks.filter (·.1 ≠ a), ?_, ?_, underway_resolve h hk target reaction⟩
  · rw [hrequests, List.append_nil]
    exact dueOf_filter f listDue h.nodup hk
  · rw [hrequests]
    cases k <;> simp [Check.request, Request.rounds]

/-- Every answer takes a pass further. -/
theorem underway_answer (h : Underway s w f p listDue checks c) {q : Request}
    (hq : q ∈ dueOf f listDue checks) :
    Answered s w f p (dueOf f listDue checks) q (c.step s (w.event q)) := by
  have target : (w.event q).target? = some f := target_event hq
  rcases mem_dueOf.1 hq with ⟨rfl, rfl⟩ | ⟨a, k, hk, rfl⟩
  · have hrequests : (c.listed s f w.list).requests = [] := by
      rw [listed_of_pass h.flow, requests_proceed]
    refine ⟨false, checks, ?_, ?_, underway_listed h⟩
    · show (_ : List Request).Perm (_ ++ (c.listed s f w.list).requests)
      rw [hrequests, List.append_nil]
      exact .refl _
    · show roundsLeft (c.listed s f w.list).requests < 1
      rw [hrequests]
      exact Nat.one_pos
  · have hcheck := h.check? hk
    cases k with
    | minting =>
      let m : Moment := ⟨s, .minted f a (w.token a)⟩
      show Answered s w f p _ _ (c.react m)
      cases htoken : w.token a with
      | error e =>
        have hverdict : verdict w a = .invalid := by simp [verdict, Answers.works, htoken]
        refine answered_resolve h hk target ?_
        simp only [m, react, step, minted, hcheck, htoken, hverdict]
      | ok token =>
        have hreact : c.react m =
            { coordinator := c.identify f a token, requests := [.identify f a token] } := by
          simp only [m, react, step, minted, hcheck, htoken]
        have hnext : Underway s w f p listDue (advanced checks a token) (c.react m).coordinator :=
          underway_identify h hk htoken target (by rw [hreact])
        refine ⟨listDue, advanced checks a token, ?_, ?_, .inl ⟨hnext, by rw [hreact]⟩⟩
        · rw [hreact]
          exact dueOf_advanced f listDue token h.nodup hk
        · rw [hreact]
          simp [Check.request, Request.rounds]
    | identifying token =>
      have htoken : w.token a = .ok token := h.known a token hk
      let m : Moment := ⟨s, .identified f a (w.owner token)⟩
      refine answered_resolve h hk (m := m) target ?_
      cases howner : w.owner token with
      | ok owner =>
        have hverdict : verdict w a = .valid := by simp [verdict, Answers.works, htoken, howner]
        simp only [m, react, step, identified, hcheck, howner, hverdict]
      | error e =>
        have hverdict : verdict w a = .invalid := by simp [verdict, Answers.works, htoken, howner]
        simp only [m, react, step, identified, hcheck, howner, hverdict]

/-! ## The course of a pass -/

/-- A pass asks for what it needs. -/
theorem underway_launch (h : Waiting f p c) (nodup : s.held.Nodup) :
    let r := c.step s (.launch f)
    Underway s w f p true (checksOf s) r.coordinator
      ∧ r.requests = dueOf f true (checksOf s) ∧ r.instructions = [] := by
  let m : Moment := ⟨s, .launch f⟩
  have hreact : c.react m =
      { coordinator := (c.update f (.pass p true (checksOf s))).closeChecks p (checksOf s)
        requests := .list f :: mintRequests s f } := by
    simp only [m, react, step, launch, h.flow]
  have hstate : (c.react m).coordinator.state =
      { PassState.begin p with tokensChecked := (checksOf s).isEmpty } := by
    rw [hreact, ← h.state]
    have hupdate : (c.update f (.pass p true (checksOf s))).state = c.state := rfl
    unfold closeChecks
    dsimp only
    split
    · next hempty => rw [state_learn, hupdate, if_pos h.passId, hempty]
    · next hempty =>
      rw [hupdate, Bool.not_eq_true _ |>.mp hempty]
      rw [h.state]
      rfl
  have hfst : (checksOf s).map Prod.fst = s.held := by
    rw [checksOf, List.map_map]
    exact List.map_id _
  have hpassId : (c.react m).coordinator.state.passId = p := by rw [hstate]; rfl
  refine ⟨⟨h.react rfl hpassId, ?_, by simp [dueOf], ?_, ?_, ?_, ?_⟩, ?_, ?_⟩
  · show (c.react m).coordinator.flow? f = _
    rw [hreact, flow?_closeChecks, flow?_update, if_pos rfl, h.flow]
    rfl
  · rw [hfst]
    exact nodup
  · intro e he
    rw [← hfst]
    exact List.mem_map_of_mem he
  · intro a token hmem
    obtain ⟨b, -, hb⟩ := List.mem_map.1 hmem
    cases hb
  · show Learned s w p true (checksOf s) (c.react m).coordinator.state
    rw [hstate]
    exact learned_begin s w p
  · show (c.react m).requests = _
    rw [hreact]
    simp [dueOf, checksOf, mintRequests, Check.request, Function.comp_def]
  · show (c.react m).instructions = _
    rw [hreact]

/-- A pass that has not come to its end, and what is due: its turn, or its answers. -/
def AtWork (s : Surroundings) (w : Answers) (f p : Nat) (c : Coordinator)
    (due : List CoordinatorEvent) : Prop :=
  (Waiting f p c ∧ due = [.launch f]) ∨ ∃ listDue checks,
    Underway s w f p listDue checks c ∧ due.Perm ((dueOf f listDue checks).map w.event)

/-- A pass that has come to its end, and what the agent has been told. -/
def AtEnd (s : Surroundings) (w : Answers) (p : Nat) (c : Coordinator)
    (due : List CoordinatorEvent) (told : List Instruction) : Prop :=
  due = [] ∧ c.state = outcome s w p ∧ told = dispatched s w

theorem AtWork.due_ne_nil {due : List CoordinatorEvent} (h : AtWork s w f p c due) : due ≠ [] := by
  rcases h with ⟨-, rfl⟩ | ⟨listDue, checks, h, hdue⟩
  · exact List.cons_ne_nil _ _
  · rintro rfl
    exact h.waiting (List.map_eq_nil_iff.1 (List.nil_perm.1 hdue))

theorem atWork_aside {due : List CoordinatorEvent} (h : AtWork s w f p c due)
    {e : CoordinatorEvent} (he : c.Aside f e) :
    AtWork s w f p (c.step s e).coordinator due ∧ (c.step s e).instructions = [] := by
  rcases h with ⟨h, hdue⟩ | ⟨listDue, checks, h, hdue⟩
  · have hrole : c.role? f = some (.pass p) := by rw [role?, h.flow]; rfl
    obtain ⟨hsecluded, hstate, hflow, htold⟩ := secluded_aside (s := s) h.toSecluded hrole he
    exact ⟨.inl ⟨⟨hsecluded, hflow.trans h.flow, hstate.trans h.state⟩, hdue⟩, htold⟩
  · have hrole : c.role? f = some (.pass p) := by rw [role?, h.flow]; rfl
    obtain ⟨hsecluded, hstate, hflow, htold⟩ := secluded_aside (s := s) h.toSecluded hrole he
    exact ⟨.inr ⟨listDue, checks, ⟨hsecluded, hflow.trans h.flow, h.waiting, h.nodup, h.held,
      h.known, hstate ▸ h.learned⟩, hdue⟩, htold⟩

/-- Taking one answer out of what is due, and what is asked for in return into it. -/
theorem perm_next {due : List Request} {q : Request} {rest new : List Request}
    {before after : List CoordinatorEvent}
    (hperm : (q :: rest).Perm (due ++ new))
    (hdue : (before ++ w.event q :: after).Perm (due.map w.event)) :
    (before ++ after ++ new.map w.event).Perm (rest.map w.event) := by
  refine List.Perm.cons_inv (a := w.event q) ?_
  have hall : ((q :: rest).map w.event).Perm (due.map w.event ++ new.map w.event) := by
    rw [← List.map_append]
    exact hperm.map w.event
  have hmiddle : (w.event q :: (before ++ after)).Perm (due.map w.event) :=
    List.perm_middle.symm.trans hdue
  exact (hmiddle.append_right (new.map w.event)).trans hall.symm

theorem atWork_next (nodup : s.held.Nodup) {before after : List CoordinatorEvent}
    {e : CoordinatorEvent} (h : AtWork s w f p c (before ++ e :: after)) :
    let r := c.step s e
    let due := before ++ after ++ r.requests.map w.event
    (AtWork s w f p r.coordinator due ∧ r.instructions = [])
      ∨ AtEnd s w p r.coordinator due r.instructions := by
  rcases h with ⟨h, hdue⟩ | ⟨listDue, checks, h, hdue⟩
  · obtain ⟨rfl, rfl, rfl⟩ : before = [] ∧ e = .launch f ∧ after = [] := by
      cases before with
      | nil => simpa using hdue
      | cons x l => simp at hdue
    obtain ⟨hnext, hrequests, htold⟩ := underway_launch (w := w) h nodup
    refine .inl ⟨.inr ⟨true, checksOf s, hnext, ?_⟩, htold⟩
    rw [hrequests]
    exact .refl _
  · have hmem : e ∈ (dueOf f listDue checks).map w.event :=
      hdue.subset (List.mem_append_right _ List.mem_cons_self)
    obtain ⟨q, hq, rfl⟩ := List.mem_map.1 hmem
    obtain ⟨listDue', checks', hperm, -, hwent⟩ := underway_answer h hq
    have hrest := perm_next hperm hdue
    rcases hwent with ⟨hnext, htold⟩ | ⟨hend, hstate, htold⟩
    · exact .inl ⟨.inr ⟨listDue', checks', hnext, hrest⟩, htold⟩
    · rw [hend] at hrest
      exact .inr ⟨List.perm_nil.1 hrest, hstate, htold⟩

/-- After its end nothing more happens to a pass. -/
theorem served_atEnd {due rest : List CoordinatorEvent} {told : List Instruction} {d : Coordinator}
    (served : Served s w f c due told d rest) (hdue : due = []) (hc : c.state.started = false) :
    told = [] ∧ d = c ∧ rest = [] := by
  cases served with
  | done => exact ⟨rfl, rfl, hdue⟩
  | next e later => simp at hdue
  | aside e he later => exact absurd (hc.symm.trans he.1) Bool.false_ne_true

/-- The invariant in the course of a pass. -/
theorem served_atWork (nodup : s.held.Nodup) {due rest : List CoordinatorEvent}
    {told : List Instruction} {d : Coordinator} (served : Served s w f c due told d rest)
    (h : AtWork s w f p c due) :
    (AtWork s w f p d rest ∧ told = []) ∨ AtEnd s w p d rest told := by
  induction served with
  | done => exact .inl ⟨h, rfl⟩
  | next e later ih =>
    rcases atWork_next nodup h with ⟨hnext, htold⟩ | ⟨hdue, hstate, htold⟩
    · rw [htold]
      exact ih hnext
    · obtain ⟨rfl, rfl, rfl⟩ := served_atEnd later hdue (by rw [hstate]; rfl)
      refine .inr ⟨rfl, hstate, ?_⟩
      rw [List.append_nil, htold]
  | aside e he later ih =>
    obtain ⟨hnext, htold⟩ := atWork_aside h he
    rw [htold]
    exact ih hnext

/-- A pass that waits can be brought to its end. -/
theorem served_of_underway {due : List CoordinatorEvent} (h : Underway s w f p listDue checks c)
    (hdue : due.Perm ((dueOf f listDue checks).map w.event)) :
    ∃ told d, Served s w f c due told d [] := by
  induction hn : roundsLeft (dueOf f listDue checks) using Nat.strongRecOn
    generalizing c listDue checks due with
  | ind n ih =>
    obtain ⟨q, hq⟩ := List.exists_mem_of_ne_nil _ h.waiting
    obtain ⟨before, after, rfl⟩ := List.append_of_mem
      (hdue.symm.subset (List.mem_map_of_mem (f := w.event) hq))
    obtain ⟨listDue', checks', hperm, hrounds, hwent⟩ := underway_answer h hq
    have hrest := perm_next hperm hdue
    rcases hwent with ⟨hnext, -⟩ | ⟨hend, -, -⟩
    · have hsum := roundsLeft_perm hperm
      rw [roundsLeft_cons, roundsLeft_append] at hsum
      obtain ⟨told, d, later⟩ := ih _ (by omega) hnext hrest rfl
      exact ⟨_, d, .next _ later⟩
    · rw [hend] at hrest
      have hlast : Served s w f (c.step s (w.event q)).coordinator
          (before ++ after ++ (c.step s (w.event q)).requests.map w.event) []
          (c.step s (w.event q)).coordinator [] := by
        rw [List.perm_nil.1 hrest]
        exact .done _ _
      exact ⟨_, _, .next _ hlast⟩

/-- What is due at any time can be brought to the end of the pass. -/
theorem served_of_atWork (nodup : s.held.Nodup) {due : List CoordinatorEvent}
    (h : AtWork s w f p c due) : ∃ told d, Served s w f c due told d [] := by
  rcases h with ⟨h, rfl⟩ | ⟨listDue, checks, h, hdue⟩
  · obtain ⟨hnext, hrequests, -⟩ := underway_launch (w := w) h nodup
    obtain ⟨told, d, later⟩ := served_of_underway hnext (.refl _)
    rw [← hrequests] at later
    have served : Served s w f c ([] ++ .launch f :: []) _ d [] := .next _ later
    exact ⟨_, d, served⟩
  · exact served_of_underway h hdue

end

/-- A pass that is started while none is in flight is alone in recording for its number. -/
theorem waiting_start {c : Coordinator} (hc : Coherent c) (idle : c.state.started = false)
    (s : Surroundings) : Waiting c.nextFlow (c.state.passId + 1) (c.step s .start).coordinator := by
  have hstart : (c.step s .start).coordinator =
      { c with state := .begin (c.state.passId + 1) }.enter (.queued (c.state.passId + 1)) := by
    simp [step, start, idle]
  have hcoherent : Coherent (c.step s .start).coordinator := hc.react ⟨s, .start⟩
  have hentered : Entered c (c.step s .start).coordinator (.pass (c.state.passId + 1)) := by
    rw [hstart]
    exact entered_enter { c with state := .begin (c.state.passId + 1) } _
  refine ⟨⟨hcoherent, ?_, fun g hg => ?_⟩, ?_, ?_⟩
  · rw [hstart]
    rfl
  · rw [hentered.role? hc] at hg
    split at hg
    · cases hg
    · have := hc.bounded g _ (.inr hg)
      omega
  · have hnone : c.flow? c.nextFlow = none :=
      Option.map_eq_none_iff.1 (hc.fresh c.nextFlow (Nat.le_refl _))
    rw [hstart, flow?_enter, if_pos rfl]
    show (c.flow? c.nextFlow).or _ = _
    rw [hnone]
    rfl
  · rw [hstart]
    rfl

/-! ## Every order -/

/-- A pass is started with none in flight, in the course of any run, and then nothing happens but
the answers, each after it was asked for, and what happens besides the pass. While something is due,
the agent is told nothing, and the pass can be brought to its end; and once nothing is due, what is
known and what the agent has been told are the reference, whatever the order was. -/
theorem outcome_of_every_order (past : List Moment) (s : Surroundings) (w : Answers)
    (idle : (({} : Coordinator).run past).state.started = false) (nodup : s.held.Nodup) :
    let c := ({} : Coordinator).run past
    ∀ told d rest,
      Served s w c.nextFlow (c.step s .start).coordinator [.launch c.nextFlow] told d rest →
        (rest ≠ [] → told = [] ∧ ∃ more e, Served s w c.nextFlow d rest more e [])
          ∧ (rest = [] → d.state = outcome s w (c.state.passId + 1) ∧ told = dispatched s w) := by
  intro c told d rest served
  have hwaiting := waiting_start (coherent_run past) idle s
  rcases served_atWork nodup served (.inl ⟨hwaiting, rfl⟩) with
    ⟨hwork, htold⟩ | ⟨rfl, hstate, htold⟩
  · exact ⟨fun _ => ⟨htold, served_of_atWork nodup hwork⟩,
      fun hrest => absurd hrest hwork.due_ne_nil⟩
  · exact ⟨fun hrest => absurd rfl hrest, fun _ => ⟨hstate, htold⟩⟩

/-- Two accounts, of which the second has no usable credentials, and a session that the first leads
and a third has joined. -/
theorem outcome_of_two_accounts :
    let s : Surroundings := ⟨[⟨"a"⟩, ⟨"b"⟩], some ⟨"a"⟩⟩
    let w : Answers :=
      { list := .ok "[0,[[0,0,0,\"a\"],[0,0,0,\"c\"]]]"
        token := fun a => if a = ⟨"a"⟩ then .ok "t" else .error .invalidCredentials
        owner := fun _ => .ok ⟨"1", none, none⟩ }
    ∃ told d,
      Served s w 0 (({} : Coordinator).step s .start).coordinator [.launch 0] told d []
        ∧ d.state =
            { passId := 1
              sessionRead := true
              session := [⟨"a"⟩, ⟨"c"⟩]
              tokensChecked := true
              valid := .ofAccounts [⟨"a"⟩]
              invalid := .ofAccounts [⟨"b"⟩] }
        ∧ told = [.perform (.adopt ⟨"c"⟩ 1)] := by
  intro s w
  have hall := outcome_of_every_order [] s w rfl (by decide)
  obtain ⟨-, told, d, served⟩ := (hall _ _ _ (.done _ _)).1 (List.cons_ne_nil _ _)
  obtain ⟨hstate, htold⟩ := (hall told d [] served).2 rfl
  refine ⟨told, d, served, ?_, ?_⟩
  · rw [hstate]
    decide +kernel
  · have hsession : (accountsOfAnswer w.list).toOption = some [⟨"a"⟩, ⟨"c"⟩] := by decide +kernel
    have hplan : (plan ⟨"a"⟩ [⟨"a"⟩, ⟨"c"⟩] (workingAccounts s w) (failingAccounts s w)).toOption =
        some [.adopt ⟨"c"⟩ 1] := by decide +kernel
    rw [htold, dispatched]
    cases hlist : accountsOfAnswer w.list with
    | error e => rw [hlist] at hsession; cases hsession
    | ok session =>
      rw [hlist] at hsession
      cases hsession
      dsimp only [s]
      cases hactions : plan ⟨"a"⟩ [⟨"a"⟩, ⟨"c"⟩] (workingAccounts s w) (failingAccounts s w) with
      | error e => rw [hactions] at hplan; cases hplan
      | ok actions =>
        rw [hactions] at hplan
        cases hplan
        rfl

end SessionSync.Coordinator
