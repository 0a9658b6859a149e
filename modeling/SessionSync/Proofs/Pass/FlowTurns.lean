import SessionSync.Proofs.Pass.CompletionOrder

/-!
# What becomes of a flow

A flow gets its turn, or an answer that it waits for. This file says once what becomes of the flow
itself, and which flows begin, for the proofs that follow a single flow or its requests.

* `Flow.awaits` — the requests whose answers a flow waits for.
* `Turn` lists everything that can become of a flow when something comes for it; `exists_turn` says
  that the list is complete.
* `entered_react` — what comes for no flow begins one flow at most, and leaves the others alone.
* `sound_run` — in every run a flow that has asked for something waits for an answer.
-/

namespace SessionSync

/-! ## What a flow waits for -/

/-- The flow that makes a request. -/
def Request.flow : Request → Nat
  | .list f => f
  | .mint f _ => f
  | .identify f _ _ => f

/-- Whether an event brings the answer to a request. -/
def CoordinatorEvent.answers : CoordinatorEvent → Request → Bool
  | .listed f _, .list g => f = g
  | .minted f a _, .mint g b => f = g && a = b
  | .identified f a _, .identify g b _ => f = g && a = b
  | _, _ => false

/-- The check that an event is about: its flow and its account. -/
def CoordinatorEvent.subject? : CoordinatorEvent → Option (Nat × AccountId)
  | .minted f a _ => some (f, a)
  | .identified f a _ => some (f, a)
  | _ => none

/-- How a check ends with an event that is about it, if it does. -/
def Check.verdict? : Check → CoordinatorEvent → Option Validity
  | .minting, .minted _ _ (.error _) => some .invalid
  | .identifying _, .identified _ _ (.ok _) => some .valid
  | .identifying _, .identified _ _ (.error _) => some .invalid
  | _, _ => none

namespace Flow

/-- Whether a flow waits for the account list of the session. -/
def listDue : Flow → Bool
  | .pass _ listDue _ => listDue
  | .reading _ => true
  | .removal _ => true
  | _ => false

/-- The checks that a flow waits for. -/
def checksDue : Flow → Checks
  | .pass _ _ checks => checks
  | .checking _ checks => checks
  | _ => []

/-- The requests whose answers the flow under a number waits for. -/
def awaits (f : Nat) (fl : Flow) : List Request :=
  Coordinator.dueOf f fl.listDue fl.checksDue

/-- The flow with other checks. -/
def withChecks (checks : Checks) : Flow → Flow
  | .pass passId listDue _ => .pass passId listDue checks
  | .checking passId _ => .checking passId checks
  | fl => fl

/-- The flow, unless it has nothing left to wait for. -/
def unlessDone : Flow → Option Flow
  | .pass _ false [] => none
  | .checking _ [] => none
  | fl => some fl

/-- A flow as it is in runs. -/
structure Sound (fl : Flow) : Prop where
  /-- An account has one check. -/
  uniform : ∀ a k k', (a, k) ∈ fl.checksDue → (a, k') ∈ fl.checksDue → k = k'
  /-- A flow that has had its turn waits for an answer. -/
  waits : (∃ p, fl = .queued p) ∨ fl.listDue = true ∨ fl.checksDue ≠ []

theorem checksDue_of_checks? {fl : Flow} {p : Nat} {checks : Checks}
    (h : fl.checks? = some (p, checks)) : fl.checksDue = checks := by
  cases fl <;> simp_all [checks?, checksDue]

theorem checksDue_withChecks {fl : Flow} (h : fl.checksDue ≠ []) (checks : Checks) :
    (fl.withChecks checks).checksDue = checks := by
  cases fl <;> simp_all [withChecks, checksDue]

@[simp]
theorem listDue_withChecks (fl : Flow) (checks : Checks) :
    (fl.withChecks checks).listDue = fl.listDue := by
  cases fl <;> rfl

theorem unlessDone_eq_some {fl fl' : Flow} (h : fl.unlessDone = some fl') : fl' = fl := by
  unfold unlessDone at h
  split at h
  · cases h
  · cases h
  · exact (Option.some.inj h).symm

/-- A flow that is not done waits for something, if it has had its turn. -/
theorem due_of_unlessDone {fl fl' : Flow} (h : fl.unlessDone = some fl') :
    (∃ p, fl = .queued p) ∨ fl.listDue = true ∨ fl.checksDue ≠ [] := by
  unfold unlessDone at h
  split at h
  · cases h
  · cases h
  · next hpass hchecking =>
    cases fl with
    | queued p => exact .inl ⟨p, rfl⟩
    | reading | removal => exact .inr (.inl rfl)
    | checking p checks => exact .inr (.inr fun hnil => hchecking p (congrArg _ hnil))
    | pass p listDue checks =>
      cases listDue with
      | true => exact .inr (.inl rfl)
      | false => exact .inr (.inr fun hnil => hpass p (congrArg _ hnil))

theorem checksDue_of_done {fl : Flow} (h : fl.unlessDone = none) : fl.checksDue = [] := by
  unfold unlessDone at h
  split at h
  · rfl
  · rfl
  · cases h

theorem awaits_of_done {fl : Flow} (h : fl.unlessDone = none) (f : Nat) : fl.awaits f = [] := by
  unfold unlessDone at h
  split at h
  · rfl
  · rfl
  · cases h

theorem mem_awaits {f : Nat} {fl : Flow} {q : Request} :
    q ∈ fl.awaits f ↔ (fl.listDue = true ∧ q = .list f)
      ∨ ∃ a k, (a, k) ∈ fl.checksDue ∧ q = k.request f a :=
  Coordinator.mem_dueOf

end Flow

theorem Check.flow_request (k : Check) (f : Nat) (a : AccountId) : (k.request f a).flow = f := by
  cases k <;> rfl

theorem Flow.flow_of_mem_awaits {f : Nat} {fl : Flow} {q : Request} (h : q ∈ fl.awaits f) :
    q.flow = f := by
  rcases mem_awaits.1 h with ⟨-, rfl⟩ | ⟨a, k, -, rfl⟩
  · rfl
  · exact k.flow_request f a

namespace CoordinatorEvent

theorem target?_of_answers {e : CoordinatorEvent} {q : Request} (h : e.answers q = true) :
    e.target? = some q.flow := by
  cases e <;> cases q <;> simp_all [answers, target?, Request.flow]

/-- What comes for another flow does not answer a request. -/
theorem not_answers_of_target? {e : CoordinatorEvent} {q : Request} (h : e.target? ≠ some q.flow) :
    e.answers q = false := by
  rw [← Bool.not_eq_true]
  exact fun hanswers => h (target?_of_answers hanswers)

theorem target?_of_subject? {e : CoordinatorEvent} {f : Nat} {a : AccountId}
    (h : e.subject? = some (f, a)) : e.target? = some f := by
  cases e <;> simp_all [subject?, target?]

end CoordinatorEvent

/-- An event that ends a check answers what the check waits for. -/
theorem Check.answers_of_verdict? {k : Check} {e : CoordinatorEvent} {v : Validity}
    (h : k.verdict? e = some v) {f : Nat} {a : AccountId} (subject : e.subject? = some (f, a)) :
    e.answers (k.request f a) = true := by
  unfold Check.verdict? at h
  split at h <;> simp_all [CoordinatorEvent.subject?, CoordinatorEvent.answers, Check.request]

/-- An event answers no more than one request of an account. -/
theorem Check.answers_request {k : Check} {e : CoordinatorEvent} {f : Nat} {a b : AccountId}
    (subject : e.subject? = some (f, a)) (h : e.answers (k.request f b) = true) : b = a := by
  cases e <;> cases k <;>
    simp_all [CoordinatorEvent.subject?, CoordinatorEvent.answers, Check.request]

/-- The account list answers no request about an account. -/
theorem Check.not_answers_of_listed {k : Check} {e : CoordinatorEvent} {f g : Nat}
    {answer : Except CallError String} (event : e = .listed g answer) {a : AccountId} :
    e.answers (k.request f a) = false := by
  subst event
  cases k <;> rfl

namespace Coordinator

/-- What is asked for at the beginning of checks is what they wait for. -/
theorem mintRequests_eq (s : Surroundings) (f : Nat) :
    mintRequests s f = (checksOf s).map fun e => e.2.request f e.1 := by
  rw [checksOf, List.map_map]
  rfl

theorem sound_begin {s : Surroundings} {fl : Flow} (checks : fl.checksDue = checksOf s)
    (waits : fl.listDue = true ∨ s.held ≠ []) : fl.Sound where
  uniform a k k' hk hk' := by
    rw [checks] at hk hk'
    obtain ⟨b, -, hb⟩ := List.mem_map.1 hk
    obtain ⟨b', -, hb'⟩ := List.mem_map.1 hk'
    cases hb
    cases hb'
    rfl
  waits := by
    refine .inr (waits.imp_right fun hheld hnil => hheld ?_)
    rw [checks] at hnil
    exact List.map_eq_nil_iff.1 hnil

theorem mem_advanced_iff {checks : Checks} {a : AccountId} {k : Check} (due : (a, k) ∈ checks)
    (token : String) {e : AccountId × Check} :
    e ∈ advanced checks a token ↔ e = (a, .identifying token) ∨ (e ∈ checks ∧ e.1 ≠ a) := by
  constructor
  · intro he
    obtain ⟨e', he', rfl⟩ := List.mem_map.1 he
    by_cases hea : e'.1 = a
    · exact .inl (if_pos hea)
    · rw [if_neg hea]
      exact .inr ⟨he', hea⟩
  · rintro (rfl | ⟨he, hea⟩)
    · exact List.mem_map.2 ⟨(a, k), due, if_pos rfl⟩
    · exact List.mem_map.2 ⟨e, he, if_neg hea⟩

/-! ## The check of an account -/

section

variable {c : Coordinator} {f p : Nat} {fl : Flow} {a : AccountId} {k : Check}

theorem check?_of_flow (flow : c.flow? f = some fl) (a : AccountId) :
    c.check? f a = (fl.checksDue.find? (·.1 = a)).map (·.2) := by
  cases fl <;> simp [check?, flow, Flow.checks?, Flow.checksDue]

theorem mem_of_check? (flow : c.flow? f = some fl) (h : c.check? f a = some k) :
    (a, k) ∈ fl.checksDue := by
  rw [check?_of_flow flow] at h
  obtain ⟨⟨b, k'⟩, hfind, rfl⟩ := Option.map_eq_some_iff.1 h
  obtain rfl : b = a := by simpa using List.find?_some hfind
  exact List.mem_of_find?_eq_some hfind

theorem check?_of_mem (flow : c.flow? f = some fl) (sound : fl.Sound)
    (h : (a, k) ∈ fl.checksDue) : c.check? f a = some k := by
  cases hcheck : c.check? f a with
  | some k' => rw [sound.uniform a k' k (mem_of_check? flow hcheck) h]
  | none =>
    rw [check?_of_flow flow, Option.map_eq_none_iff, List.find?_eq_none] at hcheck
    exact absurd (decide_eq_true rfl) (hcheck (a, k) h)

/-! ## What asking leads to -/

theorem requests_resolve (c : Coordinator) (s : Surroundings) (f : Nat) (a : AccountId)
    (validity : Validity) : (c.resolve s f a validity).requests = [] := by
  unfold resolve
  split
  · unfold continueWith
    split
    · exact requests_proceed _ _ _ _ _ _
    · rfl
    · rfl
  · rfl

/-! ## Everything that can become of a flow -/

/-- What becomes of a flow when something comes for it: the flow before, and what is left of it. -/
inductive Turn (c : Coordinator) (m : Moment) (f : Nat) : Flow → Option Flow → Prop
  /-- A pass that was started asks for what it needs. -/
  | launches {p : Nat}
      (reaction : c.react m =
        { coordinator := (c.update f (.pass p true (checksOf m.surroundings))).closeChecks p
            (checksOf m.surroundings)
          requests := .list f :: mintRequests m.surroundings f })
      (event : m.event = .launch f) :
      Turn c m f (.queued p) (some (.pass p true (checksOf m.surroundings)))
  /-- A pass gets the account list. -/
  | lists {p : Nat} {checks : Checks} (answer : Except CallError String)
      (reaction : c.react m =
        (c.learnAnswer p answer).proceed m.surroundings f p false checks)
      (event : m.event = .listed f answer) :
      Turn c m f (.pass p true checks) (Flow.pass p false checks).unlessDone
  /-- A reading gets the account list. -/
  | reads {p : Nat} (answer : Except CallError String)
      (reaction : c.react m = { coordinator := (c.learnAnswer p answer).leave f })
      (event : m.event = .listed f answer) :
      Turn c m f (.reading p) none
  /-- A removal gets the account list. -/
  | removes {a : AccountId} (answer : Except CallError String)
      (reaction : c.react m =
        { coordinator := (match accountsOfAnswer answer with
            | .ok _ => c.abort
            | .error _ => c).leave f
          instructions := [.finishRemoval a (accountsOfAnswer answer)] })
      (event : m.event = .listed f answer) :
      Turn c m f (.removal a) none
  /-- A check gets its access token. -/
  | advances {fl : Flow} {a : AccountId} (token : String) (due : (a, .minting) ∈ fl.checksDue)
      (reaction : c.react m =
        { coordinator := c.identify f a token, requests := [.identify f a token] })
      (event : m.event = .minted f a (.ok token)) :
      Turn c m f fl (some (fl.withChecks (advanced fl.checksDue a token)))
  /-- A check comes to its end. -/
  | resolves {fl : Flow} {a : AccountId} {k : Check} (v : Validity) (due : (a, k) ∈ fl.checksDue)
      (reaction : c.react m = c.resolve m.surroundings f a v)
      (subject : m.event.subject? = some (f, a)) (verdict : k.verdict? m.event = some v) :
      Turn c m f fl (fl.withChecks (fl.checksDue.filter (·.1 ≠ a))).unlessDone
  /-- The flow does not wait for it. -/
  | keeps {fl : Flow} (reaction : c.react m = { coordinator := c })
      (unasked : ∀ q ∈ fl.awaits f, m.event.answers q = false) :
      Turn c m f fl (some fl)

theorem turn_launch (flow : c.flow? f = some fl) (s : Surroundings) :
    ∃ after, Turn c ⟨s, .launch f⟩ f fl after := by
  cases fl with
  | queued p => exact ⟨_, .launches (by simp only [react, step, launch, flow]) rfl⟩
  | pass | reading | checking | removal =>
    exact ⟨_, .keeps (by simp only [react, step, launch, flow]) fun _ _ => rfl⟩

theorem listed_of_removal {a : AccountId} (h : c.flow? f = some (.removal a)) (s : Surroundings)
    (answer : Except CallError String) :
    c.listed s f answer =
      { coordinator := (match accountsOfAnswer answer with
          | .ok _ => c.abort
          | .error _ => c).leave f
        instructions := [.finishRemoval a (accountsOfAnswer answer)] } := by
  cases hsession : accountsOfAnswer answer with
  | error e => simp only [listed, h, hsession]
  | ok accounts => simp only [listed, h, hsession]

theorem turn_listed (flow : c.flow? f = some fl) (s : Surroundings)
    (answer : Except CallError String) : ∃ after, Turn c ⟨s, .listed f answer⟩ f fl after := by
  have unasked : fl.listDue = false →
      ∀ q ∈ fl.awaits f, (CoordinatorEvent.listed f answer).answers q = false := by
    intro hdue q hq
    rcases Flow.mem_awaits.1 hq with ⟨hlist, -⟩ | ⟨a, k, -, rfl⟩
    · rw [hdue] at hlist
      cases hlist
    · exact Check.not_answers_of_listed rfl
  cases fl with
  | pass p listDue checks =>
    cases listDue with
    | true => exact ⟨_, .lists answer (listed_of_pass flow s answer) rfl⟩
    | false => exact ⟨_, .keeps (by simp only [react, step, listed, flow]) (unasked rfl)⟩
  | reading p => exact ⟨_, .reads answer (listed_of_reading flow s answer) rfl⟩
  | removal a => exact ⟨_, .removes answer (listed_of_removal flow s answer) rfl⟩
  | queued | checking =>
    exact ⟨_, .keeps (by simp only [react, step, listed, flow]) (unasked rfl)⟩

/-- What is about a check that waits for something else answers nothing that its flow waits for. -/
theorem unasked_of_check? (flow : c.flow? f = some fl) (sound : fl.Sound) {e : CoordinatorEvent}
    (subject : e.subject? = some (f, a))
    (h : ∀ k, c.check? f a = some k → e.answers (k.request f a) = false) :
    ∀ q ∈ fl.awaits f, e.answers q = false := by
  intro q hq
  rw [← Bool.not_eq_true]
  intro hanswers
  rcases Flow.mem_awaits.1 hq with ⟨-, rfl⟩ | ⟨b, k, hk, rfl⟩
  · cases e <;> simp_all [CoordinatorEvent.subject?, CoordinatorEvent.answers]
  · obtain rfl := Check.answers_request subject hanswers
    rw [h k (check?_of_mem flow sound hk)] at hanswers
    cases hanswers

theorem turn_minted (flow : c.flow? f = some fl) (sound : fl.Sound) (s : Surroundings)
    (a : AccountId) (answer : Except TokenError String) :
    ∃ after, Turn c ⟨s, .minted f a answer⟩ f fl after := by
  by_cases hcheck : c.check? f a = some .minting
  · have hdue := mem_of_check? flow hcheck
    cases answer with
    | ok token =>
      exact ⟨_, .advances token hdue (by simp only [react, step, minted, hcheck]) rfl⟩
    | error e =>
      exact ⟨_, .resolves .invalid hdue (by simp only [react, step, minted, hcheck]) rfl rfl⟩
  · refine ⟨_, .keeps ?_ (unasked_of_check? (a := a) flow sound rfl fun k hk => ?_)⟩
    · simp only [react, step, minted]
    · cases k with
      | minting => exact absurd hk hcheck
      | identifying token => rfl

theorem turn_identified (flow : c.flow? f = some fl) (sound : fl.Sound) (s : Surroundings)
    (a : AccountId) (answer : Except CallError TokenOwner) :
    ∃ after, Turn c ⟨s, .identified f a answer⟩ f fl after := by
  cases hcheck : c.check? f a with
  | some k =>
    have hdue := mem_of_check? flow hcheck
    cases k with
    | identifying token =>
      cases answer with
      | ok owner =>
        exact ⟨_, .resolves .valid hdue (by simp only [react, step, identified, hcheck]) rfl rfl⟩
      | error e =>
        exact ⟨_, .resolves .invalid hdue (by simp only [react, step, identified, hcheck]) rfl rfl⟩
    | minting =>
      refine ⟨_, .keeps (by simp only [react, step, identified, hcheck])
        (unasked_of_check? (a := a) flow sound rfl fun k hk => ?_)⟩
      rw [hcheck] at hk
      cases hk
      rfl
  | none =>
    refine ⟨_, .keeps (by simp only [react, step, identified, hcheck])
      (unasked_of_check? (a := a) flow sound rfl fun k hk => ?_)⟩
    rw [hcheck] at hk
    cases hk

theorem exists_turn {m : Moment} (flow : c.flow? f = some fl) (sound : fl.Sound)
    (target : m.event.target? = some f) : ∃ after, Turn c m f fl after := by
  obtain ⟨s, event⟩ := m
  cases event with
  | launch g =>
    obtain rfl : g = f := by simpa [CoordinatorEvent.target?] using target
    exact turn_launch flow s
  | listed g answer =>
    obtain rfl : g = f := by simpa [CoordinatorEvent.target?] using target
    exact turn_listed flow s answer
  | minted g a answer =>
    obtain rfl : g = f := by simpa [CoordinatorEvent.target?] using target
    exact turn_minted flow sound s a answer
  | identified g a answer =>
    obtain rfl : g = f := by simpa [CoordinatorEvent.target?] using target
    exact turn_identified flow sound s a answer
  | start | abort | readSession | checkAccounts | removeAccount =>
    simp [CoordinatorEvent.target?] at target

/-! ### The flow afterwards -/

theorem flow?_finish (c : Coordinator) (s : Surroundings) (f p : Nat) :
    (c.finish s f p).coordinator.flow? f = none := by
  have hleave : (c.leave f).flow? f = none := by rw [flow?_leave, if_pos rfl]
  unfold finish
  dsimp only
  split
  · exact hleave
  · exact hleave

theorem flow?_update_self (flow : c.flow? f = some fl) (fl' : Flow) :
    (c.update f fl').flow? f = some fl' := by
  rw [flow?_update, if_pos rfl, flow]
  rfl

theorem flow?_proceed (flow : c.flow? f = some fl) (s : Surroundings) (p : Nat) (listDue : Bool)
    (checks : Checks) :
    (c.proceed s f p listDue checks).coordinator.flow? f
      = (Flow.pass p listDue checks).unlessDone := by
  unfold proceed
  split
  · next hdone =>
    obtain ⟨rfl, rfl⟩ : listDue = false ∧ checks = [] := by simpa using hdone
    exact flow?_finish c s f p
  · next hdue =>
    rw [flow?_update_self flow]
    unfold Flow.unlessDone
    split
    · next h => cases h; simp at hdue
    · next h => cases h
    · rfl

theorem flow?_resolve (flow : c.flow? f = some fl) (due : fl.checksDue ≠ []) (s : Surroundings)
    (a : AccountId) (v : Validity) :
    (c.resolve s f a v).coordinator.flow? f
      = (fl.withChecks (fl.checksDue.filter (·.1 ≠ a))).unlessDone := by
  cases fl with
  | pass p listDue checks =>
    have hflow : ((c.recordCheck s p a v).closeChecks p (checks.filter (·.1 ≠ a))).flow? f
        = some (.pass p listDue checks) := by
      rw [flow?_closeChecks, flow?_recordCheck, flow]
    rw [resolve_of_pass flow]
    exact flow?_proceed hflow s p listDue _
  | checking p checks =>
    simp only [resolve, flow, Option.bind_some, Flow.checks?, continueWith, flow?_recordCheck,
      Flow.withChecks, Flow.checksDue]
    cases hrest : checks.filter (·.1 ≠ a) with
    | nil => simp [flow?_leave, Flow.unlessDone]
    | cons e l => simp [flow?_update, flow, Flow.unlessDone]
  | queued | reading | removal => exact absurd rfl due

theorem flow?_identify (flow : c.flow? f = some fl) (due : fl.checksDue ≠ []) (a : AccountId)
    (token : String) :
    (c.identify f a token).flow? f = some (fl.withChecks (advanced fl.checksDue a token)) := by
  cases fl with
  | pass p listDue checks =>
    rw [identify_of_pass flow]
    exact flow?_update_self flow _
  | checking p checks =>
    simp only [identify, flow]
    exact flow?_update_self flow _
  | queued | reading | removal => exact absurd rfl due

/-- A turn says what is left of the flow. -/
theorem Turn.flow? {m : Moment} {after : Option Flow} (h : Turn c m f fl after)
    (flow : c.flow? f = some fl) : (c.react m).coordinator.flow? f = after := by
  cases h with
  | launches reaction =>
    rw [reaction, flow?_closeChecks]
    exact flow?_update_self flow _
  | lists answer reaction =>
    rw [reaction]
    exact flow?_proceed (by rw [flow?_learnAnswer, flow]) _ _ _ _
  | reads answer reaction => rw [reaction, flow?_leave, if_pos rfl]
  | removes answer reaction => rw [reaction, flow?_leave, if_pos rfl]
  | advances token due reaction =>
    rw [reaction]
    exact flow?_identify flow (List.ne_nil_of_mem due) _ token
  | resolves v due reaction =>
    rw [reaction]
    exact flow?_resolve flow (List.ne_nil_of_mem due) _ _ v
  | keeps reaction => rw [reaction, flow]

/-- What is left of a sound flow is sound. -/
theorem Turn.sound {m : Moment} {fl' : Flow} (h : Turn c m f fl (some fl')) (sound : fl.Sound) :
    fl'.Sound := by
  generalize hafter : some fl' = after at h
  cases h with
  | launches reaction =>
    cases hafter
    exact sound_begin rfl (.inl rfl)
  | lists answer reaction =>
    obtain rfl := Flow.unlessDone_eq_some hafter.symm
    exact ⟨sound.uniform, Flow.due_of_unlessDone hafter.symm⟩
  | reads | removes => cases hafter
  | @advances fl a token due reaction =>
    cases hafter
    have hne := List.ne_nil_of_mem due
    refine ⟨fun b k k' hk hk' => ?_, .inr (.inr ?_)⟩
    · rw [Flow.checksDue_withChecks hne, mem_advanced_iff due] at hk hk'
      rcases hk with hk | ⟨hk, hb⟩ <;> rcases hk' with hk' | ⟨hk', hb'⟩
      · rw [(Prod.mk.inj hk).2, (Prod.mk.inj hk').2]
      · exact absurd (Prod.mk.inj hk).1 hb'
      · exact absurd (Prod.mk.inj hk').1 hb
      · exact sound.uniform b k k' hk hk'
    · rw [Flow.checksDue_withChecks hne]
      intro hnil
      exact hne (List.map_eq_nil_iff.1 hnil)
  | @resolves fl a k v due reaction =>
    obtain rfl := Flow.unlessDone_eq_some hafter.symm
    refine ⟨fun b k k' hk hk' => ?_, Flow.due_of_unlessDone hafter.symm⟩
    rw [Flow.checksDue_withChecks (List.ne_nil_of_mem due)] at hk hk'
    exact sound.uniform b k k' (List.mem_filter.1 hk).1 (List.mem_filter.1 hk').1
  | keeps reaction =>
    cases hafter
    exact sound

end

/-! ## Flows that begin -/

/-- The requests of a flow that may have ended. -/
def awaitsOf (f : Nat) (fl? : Option Flow) : List Request :=
  fl?.elim [] (Flow.awaits f)

@[simp] theorem awaitsOf_none (f : Nat) : awaitsOf f none = [] := rfl

@[simp] theorem awaitsOf_some (f : Nat) (fl : Flow) : awaitsOf f (some fl) = fl.awaits f := rfl

/-- One flow begins at most, which asks for what it waits for, and the others are as they were. -/
def Enters (c : Coordinator) (r : Reaction) : Prop :=
  ∃ entered : Option Flow, r.requests = awaitsOf c.nextFlow entered
    ∧ (∀ g, r.coordinator.flow? g = (c.flow? g).or (if c.nextFlow = g then entered else none))
    ∧ ∀ fl, entered = some fl → fl.Sound

theorem enters_none {c : Coordinator} {r : Reaction} (requests : r.requests = [])
    (flow : ∀ g, r.coordinator.flow? g = c.flow? g) : c.Enters r :=
  ⟨none, requests, fun g => by simp [flow], nofun⟩

theorem enters_some {c : Coordinator} {r : Reaction} (fl : Flow) (sound : fl.Sound)
    (requests : r.requests = fl.awaits c.nextFlow)
    (flow : ∀ g, r.coordinator.flow? g = (c.enter fl).flow? g) : c.Enters r := by
  refine ⟨some fl, requests, fun g => (flow g).trans (flow?_enter c fl g), ?_⟩
  rintro _ ⟨⟩
  exact sound

/-- What comes for no flow begins one at most. -/
theorem entered_react (c : Coordinator) {m : Moment} (target : m.event.target? = none) :
    c.Enters (c.react m) := by
  obtain ⟨s, event⟩ := m
  cases event with
  | start =>
    show c.Enters { coordinator := c.start.1 }
    unfold start
    split
    · exact enters_none rfl fun g => rfl
    · exact enters_some (.queued (c.state.passId + 1)) ⟨nofun, .inl ⟨_, rfl⟩⟩ rfl fun g => rfl
  | abort => exact enters_none rfl fun g => flow?_abort c g
  | readSession =>
    exact enters_some (.reading c.state.passId) ⟨nofun, .inr (.inl rfl)⟩ rfl fun g => rfl
  | checkAccounts =>
    show c.Enters (c.checkAccounts s)
    unfold checkAccounts
    split
    · exact enters_none rfl fun g => flow?_closeChecks c _ _ g
    · next hheld =>
      exact enters_some (.checking c.state.passId (checksOf s))
        (sound_begin rfl (.inr (by simpa using hheld))) (mintRequests_eq s c.nextFlow) fun g => rfl
  | removeAccount a =>
    exact enters_some (.removal a) ⟨nofun, .inr (.inl rfl)⟩ rfl fun g => rfl
  | launch | listed | minted | identified => simp [CoordinatorEvent.target?] at target

/-! ## Every moment -/

/-- All flows are sound. -/
def Sound (c : Coordinator) : Prop :=
  ∀ f fl, c.flow? f = some fl → fl.Sound

theorem Sound.react {c : Coordinator} (h : c.Sound) (m : Moment) :
    (c.react m).coordinator.Sound := by
  intro g fl hg
  cases target : m.event.target? with
  | none =>
    obtain ⟨entered, -, hflow, hsound⟩ := entered_react c target
    rw [hflow] at hg
    cases hold : c.flow? g with
    | some fl' =>
      rw [hold] at hg
      cases hg
      exact h g _ hold
    | none =>
      rw [hold, Option.none_or] at hg
      split at hg
      · exact hsound fl hg
      · cases hg
  | some f =>
    by_cases hgf : g = f
    · subst hgf
      cases hold : c.flow? g with
      | none =>
        rw [react_of_gone target (by simp [role?, hold]), hold] at hg
        cases hg
      | some fl' =>
        obtain ⟨after, turn⟩ := exists_turn hold (h g _ hold) target
        have hafter := turn.flow? hold
        rw [hg] at hafter
        subst hafter
        exact turn.sound (h g _ hold)
    · rw [flow?_react_of_ne target hgf] at hg
      exact h g fl hg

theorem Sound.run {c : Coordinator} (h : c.Sound) (ms : List Moment) : (c.run ms).Sound := by
  induction ms generalizing c with
  | nil => exact h
  | cons m ms ih => exact ih (h.react m)

/-- In every run all flows are sound. -/
theorem sound_run (ms : List Moment) : (({} : Coordinator).run ms).Sound :=
  Sound.run (fun _ _ h => by cases h) ms

end Coordinator

end SessionSync
