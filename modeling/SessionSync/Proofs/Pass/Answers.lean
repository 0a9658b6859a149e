import SessionSync.Proofs.Account.AccountSet
import SessionSync.Proofs.Pass.SingleFlight

/-!
# Answers, and what a pass knows from them

The answers of the services are fixed (`Answers`). This file says what a pass comes to with them,
read off in one go, and what it knows when only some of them have arrived.

* `outcome` and `dispatched` — the reference: the session as read, the accounts of the snapshot told
  apart by their two answers, and the plan for them.
* `Learned` — what is known while the account list and some checks are due. `Learned.answer`,
  `Learned.record` and `Learned.of_same_accounts` are the steps, `Learned.outcome` and
  `Learned.dispatched` the end.
* `dueOf` — the requests that are open then; `dueOf_filter` and `dueOf_advanced` follow them through
  a step.
-/

namespace SessionSync

/-! ## Answers -/

/-- The answers of the services while a pass is in flight: one about the session, one about the
access token of each account, and one about the owner of each access token. -/
structure Answers where
  /-- The account list of the session. -/
  list : Except CallError String
  /-- The access token of an account. -/
  token : AccountId → Except TokenError String
  /-- The owner of an access token. -/
  owner : String → Except CallError TokenOwner

namespace Answers

/-- The answer to a request, as it arrives. -/
def event (w : Answers) : Request → CoordinatorEvent
  | .list f => .listed f w.list
  | .mint f a => .minted f a (w.token a)
  | .identify f a token => .identified f a (w.owner token)

/-- Whether both answers about an account are good. -/
def works (w : Answers) (a : AccountId) : Bool :=
  match w.token a with
  | .error _ => false
  | .ok token =>
    match w.owner token with
    | .ok _ => true
    | .error _ => false

/-- Whether the session can be read from the answer about it, and the accounts it then has. -/
def reading (w : Answers) : Bool × List AccountId :=
  match accountsOfAnswer w.list with
  | .ok accounts => (true, accounts)
  | .error _ => (false, [])

end Answers

/-- The request whose answer a check waits for. -/
def Check.request (f : Nat) (a : AccountId) : Check → Request
  | .minting => .mint f a
  | .identifying token => .identify f a token

/-- How many answers a request may still lead to. -/
def Request.rounds : Request → Nat
  | .list _ => 1
  | .mint _ _ => 2
  | .identify _ _ _ => 1

/-- How many answers some requests may still lead to. -/
def roundsLeft : List Request → Nat
  | [] => 0
  | q :: requests => q.rounds + roundsLeft requests

@[simp]
theorem roundsLeft_nil : roundsLeft [] = 0 := rfl

@[simp]
theorem roundsLeft_cons (q : Request) (requests : List Request) :
    roundsLeft (q :: requests) = q.rounds + roundsLeft requests := rfl

@[simp]
theorem roundsLeft_append (requests more : List Request) :
    roundsLeft (requests ++ more) = roundsLeft requests + roundsLeft more := by
  induction requests with
  | nil => simp
  | cons q requests ih => simp [ih, Nat.add_assoc]

theorem roundsLeft_perm {requests others : List Request} (h : requests.Perm others) :
    roundsLeft requests = roundsLeft others := by
  induction h with
  | nil => rfl
  | cons q _ ih => simp [ih]
  | swap q r requests => simp only [roundsLeft_cons, Nat.add_left_comm]
  | trans _ _ ih ih' => exact ih.trans ih'

namespace Coordinator

/-! ## The reference -/

/-- The accounts of the snapshot whose token is given and whose owner is known. -/
def workingAccounts (s : Surroundings) (w : Answers) : AccountSet :=
  .ofAccounts (s.held.filter fun a => w.works a)

/-- The other accounts of the snapshot. -/
def failingAccounts (s : Surroundings) (w : Answers) : AccountSet :=
  .ofAccounts (s.held.filter fun a => !w.works a)

/-- What is known when a pass has come to its end. -/
def outcome (s : Surroundings) (w : Answers) (p : Nat) : PassState :=
  { passId := p
    sessionRead := w.reading.1
    session := w.reading.2
    tokensChecked := true
    valid := workingAccounts s w
    invalid := failingAccounts s w }

/-- What the agent is told at the end of a pass: the plan for the accounts of the session and of the
snapshot, and nothing when the session could not be read, nobody is signed in, or no plan can be
made. -/
def dispatched (s : Surroundings) (w : Answers) : List Instruction :=
  match accountsOfAnswer w.list, s.primary with
  | .ok session, some primary =>
    match plan primary session (workingAccounts s w) (failingAccounts s w) with
    | .ok actions => actions.map .perform
    | .error _ => []
  | _, _ => []

/-! ## What a pass knows halfway -/

/-- No check of an account is due. -/
def Settled (checks : Checks) (a : AccountId) : Prop :=
  ∀ e ∈ checks, e.1 ≠ a

/-- What a pass in flight knows while the account list and some checks are due. -/
structure Learned (s : Surroundings) (w : Answers) (p : Nat) (listDue : Bool) (checks : Checks)
    (st : PassState) : Prop where
  passId : st.passId = p
  started : st.started = true
  reading : (st.sessionRead, st.session) = if listDue then (false, []) else w.reading
  tokensChecked : st.tokensChecked = checks.isEmpty
  valid : ∀ a, st.valid.contains a = true ↔
    (a ∈ s.held ∧ Settled checks a) ∧ w.works a = true
  invalid : ∀ a, st.invalid.contains a = true ↔
    (a ∈ s.held ∧ Settled checks a) ∧ w.works a = false

section

variable {s : Surroundings} {w : Answers} {p : Nat} {listDue : Bool} {checks : Checks}
  {st : PassState}

theorem settled_checksOf (s : Surroundings) (a : AccountId) :
    Settled (checksOf s) a ↔ a ∉ s.held := by
  simp only [Settled, checksOf, List.mem_map, forall_exists_index, and_imp]
  constructor
  · intro h ha
    exact h (a, .minting) a ha rfl rfl
  · rintro h e b hb rfl rfl
    exact h hb

theorem settled_filter (checks : Checks) (a b : AccountId) :
    Settled (checks.filter (·.1 ≠ a)) b ↔ b = a ∨ Settled checks b := by
  simp only [Settled, List.mem_filter, decide_eq_true_eq, and_imp]
  constructor
  · intro h
    by_cases hb : b = a
    · exact .inl hb
    · exact .inr fun e he heb => h e he (heb ▸ hb) heb
  · rintro (rfl | h) e he hne
    · exact hne
    · exact h e he

/-- What is known at the start: nothing, unless there is no account to check. -/
theorem learned_begin (s : Surroundings) (w : Answers) (p : Nat) :
    Learned s w p true (checksOf s)
      { PassState.begin p with tokensChecked := (checksOf s).isEmpty } where
  passId := rfl
  started := rfl
  reading := rfl
  tokensChecked := rfl
  valid a := by
    rw [settled_checksOf]
    exact iff_of_false (by simp [PassState.begin, Catalog.contains_empty]) (fun h => h.1.2 h.1.1)
  invalid a := by
    rw [settled_checksOf]
    exact iff_of_false (by simp [PassState.begin, Catalog.contains_empty]) (fun h => h.1.2 h.1.1)

/-- The answer about the session tells what its accounts are. -/
theorem Learned.answer {c : Coordinator} (h : Learned s w p true checks c.state) :
    Learned s w p false checks (c.learnAnswer p w.list).state := by
  have hreading := h.reading
  unfold learnAnswer
  cases hlist : accountsOfAnswer w.list with
  | ok accounts =>
    dsimp only
    rw [state_learn, if_pos h.passId]
    exact ⟨h.passId, h.started, by simp [Answers.reading, hlist, PassState.setSession],
      h.tokensChecked, h.valid, h.invalid⟩
  | error e =>
    exact ⟨h.passId, h.started, by simpa [Answers.reading, hlist] using hreading,
      h.tokensChecked, h.valid, h.invalid⟩

/-- A check that goes on to the owner of a token tells nothing yet. -/
theorem Learned.of_same_accounts {checks' : Checks} (h : Learned s w p listDue checks st)
    (hempty : checks'.isEmpty = checks.isEmpty)
    (hsame : ∀ a, Settled checks' a ↔ Settled checks a) :
    Learned s w p listDue checks' st := by
  refine ⟨h.passId, h.started, h.reading, hempty ▸ h.tokensChecked, ?_, ?_⟩
  · intro a
    rw [hsame]
    exact h.valid a
  · intro a
    rw [hsame]
    exact h.invalid a

/-- The verdict on an account by its two answers. -/
def verdict (w : Answers) (a : AccountId) : Validity :=
  if w.works a then .valid else .invalid

/-- What is known once a pass that has checks due has recorded the end of one. -/
theorem state_recorded {c : Coordinator} {a : AccountId} (v : Validity) (checks : Checks)
    (hpassId : c.state.passId = p) (hchecked : c.state.tokensChecked = false) (ha : a ∈ s.held) :
    ((c.recordCheck s p a v).closeChecks p checks).state =
      { c.state.record a v with tokensChecked := checks.isEmpty } := by
  have hrecord : (c.recordCheck s p a v).state = c.state.record a v := by
    unfold recordCheck
    rw [if_pos (by simpa using ha), state_learn, if_pos hpassId]
  unfold closeChecks
  split
  · next hempty =>
    have hkept : (c.recordCheck s p a v).state.passId = p :=
      (samePass_recordCheck c s p a v).1.trans hpassId
    rw [state_learn, if_pos hkept, hrecord, hempty]
  · next hempty =>
    rw [hrecord, Bool.not_eq_true _ |>.mp hempty]
    cases v <;> simp [PassState.record, hchecked]

/-- The end of a check tells whether the account works. -/
theorem Learned.record {c : Coordinator} (h : Learned s w p listDue checks c.state) {a : AccountId}
    (ha : a ∈ s.held) (hdue : ¬ Settled checks a) :
    Learned s w p listDue (checks.filter (·.1 ≠ a))
      ((c.recordCheck s p a (verdict w a)).closeChecks p (checks.filter (·.1 ≠ a))).state := by
  have hchecked : c.state.tokensChecked = false := by
    rw [h.tokensChecked, List.isEmpty_eq_false_iff]
    rintro rfl
    exact hdue (by simp [Settled])
  rw [state_recorded _ _ h.passId hchecked ha]
  have hnot : ∀ b, b ≠ a → (Settled (checks.filter (·.1 ≠ a)) b ↔ Settled checks b) := by
    intro b hb
    rw [settled_filter]
    exact or_iff_right hb
  have hself : Settled (checks.filter (·.1 ≠ a)) a := (settled_filter checks a a).2 (.inl rfl)
  generalize checks.filter (·.1 ≠ a) = checks' at hnot hself ⊢
  unfold verdict
  split
  · next hworks =>
    refine ⟨h.passId, h.started, h.reading, rfl, fun b => ?_, fun b => ?_⟩
    · simp only [PassState.record, AccountSet.contains_add, h.valid]
      by_cases hb : b = a
      · subst hb; simp [ha, hself, hworks]
      · simp [hb, hnot b hb]
    · simp only [PassState.record, Catalog.contains_erase, h.invalid]
      by_cases hb : b = a
      · subst hb; simp [hworks]
      · simp [hb, hnot b hb]
  · next hworks =>
    refine ⟨h.passId, h.started, h.reading, rfl, fun b => ?_, fun b => ?_⟩
    · simp only [PassState.record, Catalog.contains_erase, h.valid]
      by_cases hb : b = a
      · subst hb; simp [hworks]
      · simp [hb, hnot b hb]
    · simp only [PassState.record, AccountSet.contains_add, h.invalid]
      by_cases hb : b = a
      · subst hb; simp [ha, hself, hworks]
      · simp [hb, hnot b hb]

/-- With nothing due any more, what is known is the reference. -/
theorem Learned.outcome (h : Learned s w p false [] st) :
    { st with started := false } = outcome s w p := by
  have hread := h.reading
  simp only [Bool.false_eq_true, if_false] at hread
  have hvalid : st.valid = workingAccounts s w := by
    refine AccountSet.ext fun a => ?_
    rw [h.valid, workingAccounts, AccountSet.contains_ofAccounts]
    simp [Settled]
  have hinvalid : st.invalid = failingAccounts s w := by
    refine AccountSet.ext fun a => ?_
    rw [h.invalid, failingAccounts, AccountSet.contains_ofAccounts]
    simp [Settled]
  unfold Coordinator.outcome
  rw [← hread, ← hvalid, ← hinvalid, ← h.passId]
  have htokens : st.tokensChecked = true := h.tokensChecked
  rw [← htokens]

/-- The plan for what is then known is the reference. -/
theorem Learned.dispatched (h : Learned s w p false [] st) :
    (if st.isReady then planned st s.primary else []) = dispatched s w := by
  have hread := h.reading
  have hstate := h.outcome
  have hsession : st.session = (Coordinator.outcome s w p).session := by rw [← hstate]
  have hvalid : st.valid = workingAccounts s w := congrArg PassState.valid hstate
  have hinvalid : st.invalid = failingAccounts s w := congrArg PassState.invalid hstate
  have hready : st.isReady = w.reading.1 := by
    rw [PassState.isReady, h.tokensChecked]
    simpa using congrArg Prod.fst hread
  unfold planned Coordinator.dispatched
  rw [hready, hsession, hvalid, hinvalid]
  unfold Coordinator.outcome Answers.reading
  cases accountsOfAnswer w.list with
  | error e => simp
  | ok accounts => cases s.primary <;> rfl

end

/-! ## What is due -/

/-- The requests whose answers a pass waits for. -/
def dueOf (f : Nat) (listDue : Bool) (checks : Checks) : List Request :=
  (if listDue then [.list f] else []) ++ checks.map fun e => e.2.request f e.1

/-- The checks when one of them has gone on to the owner of an access token. -/
def advanced (checks : Checks) (a : AccountId) (token : String) : Checks :=
  checks.map fun e => if e.1 = a then (a, .identifying token) else e

section

variable {checks : Checks} {a : AccountId} {k : Check}

theorem find?_of_mem (nodup : (checks.map Prod.fst).Nodup) (h : (a, k) ∈ checks) :
    checks.find? (·.1 = a) = some (a, k) := by
  induction checks with
  | nil => cases h
  | cons e l ih =>
    rw [List.map_cons, List.nodup_cons] at nodup
    rcases List.mem_cons.1 h with rfl | h
    · simp
    · have hne : e.1 ≠ a := fun he => nodup.1 (List.mem_map.2 ⟨_, h, he.symm⟩)
      rw [List.find?_cons_of_neg (by simpa using hne), ih nodup.2 h]

theorem dueOf_filter (f : Nat) (listDue : Bool) (nodup : (checks.map Prod.fst).Nodup)
    (h : (a, k) ∈ checks) :
    (k.request f a :: dueOf f listDue (checks.filter (·.1 ≠ a))).Perm
      (dueOf f listDue checks) := by
  unfold dueOf
  refine List.perm_middle.symm.trans (List.Perm.append_left _ ?_)
  induction checks with
  | nil => cases h
  | cons e l ih =>
    rw [List.map_cons, List.nodup_cons] at nodup
    rcases List.mem_cons.1 h with rfl | h
    · have hrest : l.filter (·.1 ≠ a) = l := by
        rw [List.filter_eq_self]
        intro e he
        simpa using fun hea : e.1 = a => nodup.1 (List.mem_map.2 ⟨e, he, hea⟩)
      rw [List.filter_cons_of_neg (by simp), hrest]
      exact .refl _
    · have hne : e.1 ≠ a := fun he => nodup.1 (List.mem_map.2 ⟨_, h, he.symm⟩)
      rw [List.filter_cons_of_pos (by simpa using hne), List.map_cons, List.map_cons]
      exact (List.Perm.swap _ _ _).trans ((ih nodup.2 h).cons _)

theorem fst_advanced (checks : Checks) (a : AccountId) (token : String) :
    (advanced checks a token).map Prod.fst = checks.map Prod.fst := by
  unfold advanced
  rw [List.map_map]
  refine List.map_congr_left fun e _ => ?_
  by_cases h : e.1 = a <;> simp [h]

theorem settled_iff (checks : Checks) (a : AccountId) :
    Settled checks a ↔ a ∉ checks.map Prod.fst := by
  simp only [Settled, List.mem_map, not_exists, not_and, ne_eq]

theorem settled_advanced (checks : Checks) (a b : AccountId) (token : String) :
    Settled (advanced checks a token) b ↔ Settled checks b := by
  rw [settled_iff, settled_iff, fst_advanced]

theorem mem_advanced {token : String} {e : AccountId × Check}
    (h : e ∈ advanced checks a token) : e = (a, .identifying token) ∨ e ∈ checks := by
  obtain ⟨e', he', rfl⟩ := List.mem_map.1 h
  by_cases ha : e'.1 = a
  · exact .inl (if_pos ha)
  · rw [if_neg ha]
    exact .inr he'

theorem filter_advanced (checks : Checks) (a : AccountId) (token : String) :
    (advanced checks a token).filter (·.1 ≠ a) = checks.filter (·.1 ≠ a) := by
  unfold advanced
  induction checks with
  | nil => rfl
  | cons e l ih =>
    by_cases h : e.1 = a
    · simp only [List.map_cons, h, if_true]
      rw [List.filter_cons_of_neg (by simp), List.filter_cons_of_neg (by simp [h]), ih]
    · simp only [List.map_cons, h, if_false]
      rw [List.filter_cons_of_pos (by simpa using h), List.filter_cons_of_pos (by simpa using h),
        ih]

theorem dueOf_advanced (f : Nat) (listDue : Bool) (token : String)
    (nodup : (checks.map Prod.fst).Nodup) (h : (a, .minting) ∈ checks) :
    (Request.mint f a :: dueOf f listDue (advanced checks a token)).Perm
      (dueOf f listDue checks ++ [.identify f a token]) := by
  have hbefore := dueOf_filter f listDue nodup h
  have hmem : (a, .identifying token) ∈ advanced checks a token :=
    List.mem_map.2 ⟨_, h, if_pos rfl⟩
  have hafter := dueOf_filter f listDue ((fst_advanced checks a token).symm ▸ nodup) hmem
  rw [filter_advanced] at hafter
  exact (hafter.symm.cons _).trans ((List.Perm.swap _ _ _).trans
    ((hbefore.cons _).trans (List.perm_append_singleton _ _).symm))

theorem mem_dueOf {f : Nat} {listDue : Bool} {q : Request} :
    q ∈ dueOf f listDue checks ↔
      (listDue = true ∧ q = .list f) ∨ ∃ a k, (a, k) ∈ checks ∧ q = k.request f a := by
  unfold dueOf
  rw [List.mem_append, List.mem_map]
  refine or_congr ?_ ?_
  · cases listDue <;> simp
  · constructor
    · rintro ⟨⟨a, k⟩, h, rfl⟩
      exact ⟨a, k, h, rfl⟩
    · rintro ⟨a, k, h, rfl⟩
      exact ⟨(a, k), h, rfl⟩

end

end Coordinator

end SessionSync
