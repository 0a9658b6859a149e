import SessionSync.Proofs.Pass.FlowTurns

/-!
# The checks of a snapshot

A pass, or a checking outside a pass, checks the accounts that hold credentials when it begins. The
checks go on side by side, and their answers come in any order, mixed with everything else.

* `tokenVerdict` — how the check of an account ends, told from the answers alone.
* `result?`, `reports` — the checks that come to their end, and those of them that are reported: not
  those of accounts that have lost their credentials by then.
* `check?_react` — what one moment does to the check of one account.
* `filter_reports`, `returned_iff` — every account of the snapshot comes to its end once, and no
  other does; the checks are over when all of the snapshot have come to their end.
* `exists_beginning` — checks that are due have begun at some moment of the run.
-/

namespace SessionSync

/-! ## Verdicts -/

/-- How the check of an account ends. -/
structure Verdict where
  /-- Whether the credentials work. -/
  validity : Validity
  /-- Whether the account held credentials at that moment. -/
  held : Bool
  deriving Repr, DecidableEq

/-- The access token of an account, as it arrives for a flow. -/
def CoordinatorEvent.tokenAnswer? (f : Nat) (a : AccountId) :
    CoordinatorEvent → Option (Except TokenError String)
  | .minted g b answer => if g = f ∧ b = a then some answer else none
  | _ => none

/-- The owner of the access token of an account, as it arrives for a flow. -/
def CoordinatorEvent.ownerAnswer? (f : Nat) (a : AccountId) :
    CoordinatorEvent → Option (Except CallError TokenOwner)
  | .identified g b answer => if g = f ∧ b = a then some answer else none
  | _ => none

/-- The verdict on an account, read off the answers from the moment its access token was given: it
is the next answer about the owner of the token that counts. -/
def ownerVerdict (f : Nat) (a : AccountId) : List Moment → Option Verdict
  | [] => none
  | m :: ms =>
    match m.event.ownerAnswer? f a with
    | some (.ok _) => some ⟨.valid, m.surroundings.held.contains a⟩
    | some (.error _) => some ⟨.invalid, m.surroundings.held.contains a⟩
    | none => ownerVerdict f a ms

/-- The verdict on an account, read off the answers from the beginning of its check: the next answer
about its access token counts, and the next one about the owner of the token after that. -/
def tokenVerdict (f : Nat) (a : AccountId) : List Moment → Option Verdict
  | [] => none
  | m :: ms =>
    match m.event.tokenAnswer? f a with
    | some (.ok _) => ownerVerdict f a ms
    | some (.error _) => some ⟨.invalid, m.surroundings.held.contains a⟩
    | none => tokenVerdict f a ms

/-- What is reported about an account: nothing if it has lost its credentials. -/
def reportOf (a : AccountId) : Option Verdict → List (AccountId × Validity)
  | some ⟨v, true⟩ => [(a, v)]
  | _ => []

/-- The verdict on an account whose check has got this far. -/
def Check.verdictFrom (f : Nat) (a : AccountId) : Check → List Moment → Option Verdict
  | .minting => tokenVerdict f a
  | .identifying _ => ownerVerdict f a

/-- What the check of an account in a flow waits for after an event, if it goes on. -/
def Check.next? (f : Nat) (a : AccountId) (e : CoordinatorEvent) : Check → Option Check
  | .minting =>
    match e.tokenAnswer? f a with
    | some (.ok token) => some (.identifying token)
    | some (.error _) => none
    | none => some .minting
  | .identifying token =>
    match e.ownerAnswer? f a with
    | some _ => none
    | none => some (.identifying token)

/-- The check goes on at an event that does not answer it. -/
theorem Check.next?_of_not_answers {k : Check} {e : CoordinatorEvent} {f : Nat} {a : AccountId}
    (h : e.answers (k.request f a) = false) : k.next? f a e = some k := by
  cases k with
  | minting =>
    have hanswer : e.tokenAnswer? f a = none := by
      cases e <;> simp_all [CoordinatorEvent.answers, Check.request, CoordinatorEvent.tokenAnswer?]
    simp [Check.next?, hanswer]
  | identifying token =>
    have hanswer : e.ownerAnswer? f a = none := by
      cases e <;> simp_all [CoordinatorEvent.answers, Check.request, CoordinatorEvent.ownerAnswer?]
    simp [Check.next?, hanswer]

theorem Check.next?_of_verdict? {k : Check} {e : CoordinatorEvent} {v : Validity}
    (h : k.verdict? e = some v) {f : Nat} {a : AccountId} (subject : e.subject? = some (f, a)) :
    k.next? f a e = none := by
  unfold Check.verdict? at h
  split at h <;>
    simp_all [Check.next?, CoordinatorEvent.subject?, CoordinatorEvent.tokenAnswer?,
      CoordinatorEvent.ownerAnswer?]

/-- What answers a check either takes it further or ends it with a verdict. -/
theorem Check.verdict?_of_next?_eq_none {k : Check} {e : CoordinatorEvent} {f : Nat} {a : AccountId}
    (h : k.next? f a e = none) : e.subject? = some (f, a) ∧ ∃ v, k.verdict? e = some v := by
  cases k with
  | minting =>
    cases e with
    | minted g b answer =>
      by_cases hgb : g = f ∧ b = a
      · obtain ⟨rfl, rfl⟩ := hgb
        cases answer with
        | ok token => simp [Check.next?, CoordinatorEvent.tokenAnswer?] at h
        | error e => exact ⟨rfl, .invalid, rfl⟩
      · simp [Check.next?, CoordinatorEvent.tokenAnswer?, hgb] at h
    | _ => simp [Check.next?, CoordinatorEvent.tokenAnswer?] at h
  | identifying token =>
    cases e with
    | identified g b answer =>
      by_cases hgb : g = f ∧ b = a
      · obtain ⟨rfl, rfl⟩ := hgb
        cases answer with
        | ok owner => exact ⟨rfl, .valid, rfl⟩
        | error e => exact ⟨rfl, .invalid, rfl⟩
      · simp [Check.next?, CoordinatorEvent.ownerAnswer?, hgb] at h
    | _ => simp [Check.next?, CoordinatorEvent.ownerAnswer?] at h

/-- The verdict is the one of the moment that ends the check, or comes later. -/
theorem Check.verdictFrom_cons (f : Nat) (a : AccountId) (k : Check) (m : Moment)
    (ms : List Moment) :
    k.verdictFrom f a (m :: ms) =
      match k.next? f a m.event with
      | some k' => k'.verdictFrom f a ms
      | none => (k.verdict? m.event).map fun v => ⟨v, m.surroundings.held.contains a⟩ := by
  cases hnext : k.next? f a m.event with
  | some k' =>
    cases k with
    | minting =>
      simp only [Check.verdictFrom, tokenVerdict]
      simp only [Check.next?] at hnext
      split at hnext
      · cases hnext; rfl
      · cases hnext
      · cases hnext; rfl
    | identifying token =>
      simp only [Check.verdictFrom, ownerVerdict]
      simp only [Check.next?] at hnext
      split at hnext
      · cases hnext
      · next hanswer => cases hnext; rw [hanswer]
  | none =>
    obtain ⟨hsubject, v, hv⟩ := Check.verdict?_of_next?_eq_none hnext
    rw [hv]
    unfold Check.verdict? at hv
    split at hv <;>
      simp_all [Check.verdictFrom, tokenVerdict, ownerVerdict, CoordinatorEvent.subject?,
        CoordinatorEvent.tokenAnswer?, CoordinatorEvent.ownerAnswer?]

namespace Coordinator

/-! ## Results -/

/-- A check that has come to its end. -/
structure Result where
  /-- The flow that waited for it. -/
  flow : Nat
  /-- The account. -/
  account : AccountId
  /-- Whether its credentials work. -/
  validity : Validity
  deriving Repr, DecidableEq

/-- The check that comes to its end at a moment. -/
def result? (c : Coordinator) (m : Moment) : Option Result :=
  match m.event.subject? with
  | some (f, a) => ((c.check? f a).bind (·.verdict? m.event)).map fun v => ⟨f, a, v⟩
  | none => none

/-- What is reported for a flow at a moment. -/
def reported (c : Coordinator) (f : Nat) (m : Moment) : List (AccountId × Validity) :=
  match c.result? m with
  | some r =>
    if r.flow = f ∧ m.surroundings.held.contains r.account then [(r.account, r.validity)] else []
  | none => []

/-- What is reported for a flow in a run. -/
def reports (c : Coordinator) (f : Nat) : List Moment → List (AccountId × Validity)
  | [] => []
  | m :: ms => c.reported f m ++ reports (c.react m).coordinator f ms

/-- A flow begins to check the accounts that hold credentials. -/
inductive BeginsChecks (c : Coordinator) (m : Moment) : Nat → Prop
  /-- A pass that was started gets its turn. -/
  | pass {f p : Nat} (flow : c.flow? f = some (.queued p)) (event : m.event = .launch f) :
      BeginsChecks c m f
  /-- The accounts are to be checked outside a pass, and there are some. -/
  | trigger (event : m.event = .checkAccounts) (held : m.surroundings.held ≠ []) :
      BeginsChecks c m c.nextFlow

/-- A flow that has had its turn. -/
def Begun (c : Coordinator) (f : Nat) : Prop :=
  f < c.nextFlow ∧ ∀ p, c.flow? f ≠ some (.queued p)

section

variable {c : Coordinator} {m : Moment} {f : Nat} {a : AccountId} {k : Check}

theorem result?_eq_some {r : Result} :
    c.result? m = some r ↔ m.event.subject? = some (r.flow, r.account)
      ∧ ∃ k, c.check? r.flow r.account = some k ∧ k.verdict? m.event = some r.validity := by
  unfold result?
  cases hsubject : m.event.subject? with
  | none => simp
  | some pair =>
    obtain ⟨f, a⟩ := pair
    simp only [Option.map_eq_some_iff, Option.bind_eq_some_iff]
    constructor
    · rintro ⟨v, ⟨k, hk, hv⟩, rfl⟩
      exact ⟨rfl, k, hk, hv⟩
    · rintro ⟨hpair, k, hk, hv⟩
      cases hpair
      exact ⟨_, ⟨k, hk, hv⟩, rfl⟩

/-! ## One moment -/

theorem flow?_of_fresh (hc : Coherent c) {g : Nat} (h : c.nextFlow ≤ g) : c.flow? g = none :=
  Option.map_eq_none_iff.1 (hc.fresh g h)

theorem check?_of_gone (h : c.flow? f = none) : c.check? f a = none := by
  simp [check?, h]

theorem check?_congr {d : Coordinator} (h : d.flow? f = c.flow? f) :
    d.check? f a = c.check? f a := by
  unfold check?
  rw [h]

/-- A flow that has had its turn is not touched by what comes for no flow. -/
theorem flow?_of_no_target (target : m.event.target? = none) (begun : f < c.nextFlow) :
    (c.react m).coordinator.flow? f = c.flow? f := by
  obtain ⟨entered, -, hflow, -⟩ := entered_react c target
  rw [hflow, if_neg (Nat.ne_of_gt begun), Option.or_none]

theorem Begun.react (sound : c.Sound) (h : c.Begun f) (m : Moment) :
    (c.react m).coordinator.Begun f := by
  refine ⟨Nat.lt_of_lt_of_le h.1 (nextFlow_le_react c m), fun p hp => ?_⟩
  cases target : m.event.target? with
  | none => exact h.2 p ((flow?_of_no_target target h.1).symm.trans hp)
  | some g =>
    by_cases hgf : f = g
    · subst hgf
      cases hflow : c.flow? f with
      | none =>
        rw [react_of_gone target (by simp [role?, hflow]), hflow] at hp
        cases hp
      | some fl =>
        obtain ⟨after, turn⟩ := exists_turn hflow (sound f fl hflow) target
        have hafter := turn.flow? hflow
        rw [hp] at hafter
        subst hafter
        generalize hqueued : some (Flow.queued p) = after at turn
        cases turn with
        | launches | reads | removes => cases hqueued
        | lists => cases Flow.unlessDone_eq_some hqueued.symm
        | advances token due =>
          cases fl <;> simp_all [Flow.withChecks, Flow.checksDue]
        | resolves v due =>
          have hleft := Flow.unlessDone_eq_some hqueued.symm
          cases fl <;> simp_all [Flow.withChecks, Flow.checksDue]
        | keeps => exact h.2 p (hflow.trans hqueued.symm)
    · exact h.2 p ((flow?_react_of_ne target hgf).symm.trans hp)

theorem find?_filter_ne (checks : Checks) (a b : AccountId) :
    (checks.filter (·.1 ≠ a)).find? (·.1 = b) =
      if b = a then none else checks.find? (·.1 = b) := by
  induction checks with
  | nil => simp
  | cons e l ih => grind

theorem find?_advanced (checks : Checks) (a b : AccountId) (token : String) :
    ((advanced checks a token).find? (·.1 = b)).map (·.2) =
      if b = a then (checks.find? (·.1 = a)).map fun _ => .identifying token
      else (checks.find? (·.1 = b)).map (·.2) := by
  unfold advanced
  induction checks with
  | nil => simp
  | cons e l ih => grind

theorem check?_of_left {fl : Flow} (h : c.flow? f = fl.unlessDone) (a : AccountId) :
    c.check? f a = (fl.checksDue.find? (·.1 = a)).map (·.2) := by
  cases hleft : fl.unlessDone with
  | some fl' =>
    rw [Flow.unlessDone_eq_some hleft] at hleft
    rw [check?_of_flow (h.trans hleft)]
  | none => rw [check?_of_gone (h.trans hleft), Flow.checksDue_of_done hleft]; rfl

/-- An event about a check answers nothing that other accounts have asked for. -/
theorem not_answers_of_ne {b : AccountId} (subject : m.event.subject? = some (f, a)) (h : b ≠ a)
    (k : Check) : m.event.answers (k.request f b) = false := by
  rw [← Bool.not_eq_true]
  exact fun hanswers => h (Check.answers_request subject hanswers)

/-- What comes for another flow does not answer a check. -/
theorem not_answers_of_other_target (h : m.event.target? ≠ some f) (k : Check) :
    m.event.answers (k.request f a) = false :=
  CoordinatorEvent.not_answers_of_target? (by rwa [k.flow_request])

/-- The check of an account stays where it is unless it is answered. -/
theorem next?_of_unanswered
    (h : ∀ k, c.check? f a = some k → m.event.answers (k.request f a) = false) :
    (c.check? f a).bind (·.next? f a m.event) = c.check? f a := by
  cases hcheck : c.check? f a with
  | none => rfl
  | some k => exact Check.next?_of_not_answers (h k hcheck)

/-- What a flow does with what comes for it takes further the check that is answered, if one is. -/
theorem check?_turn {fl : Flow} {after : Option Flow} (turn : Turn c m f fl after)
    (flow : c.flow? f = some fl) (sound : fl.Sound) (begun : ∀ p, fl ≠ .queued p) (a : AccountId) :
    (c.react m).coordinator.check? f a = (c.check? f a).bind (·.next? f a m.event) := by
  have hafter := turn.flow? flow
  cases turn with
  | launches => exact absurd rfl (begun _)
  | lists answer reaction event =>
    rw [next?_of_unanswered fun k _ => Check.not_answers_of_listed event, check?_of_left hafter,
      check?_of_flow flow]
    rfl
  | reads | removes =>
    rw [check?_of_gone hafter, check?_of_flow flow]
    rfl
  | @advances fl b token due reaction event =>
    have hne := List.ne_nil_of_mem due
    rw [check?_of_flow hafter, Flow.checksDue_withChecks hne, find?_advanced]
    by_cases hab : a = b
    · subst hab
      have hsome := check?_of_mem flow sound due
      rw [if_pos rfl, hsome]
      rw [check?_of_flow flow] at hsome
      obtain ⟨e, he, -⟩ := Option.map_eq_some_iff.1 hsome
      simp [he, Check.next?, event, CoordinatorEvent.tokenAnswer?]
    · have hsubject : m.event.subject? = some (f, b) := by rw [event]; rfl
      rw [if_neg hab, next?_of_unanswered fun k _ => not_answers_of_ne hsubject hab k,
        check?_of_flow flow]
  | @resolves fl b k v due reaction subject verdict =>
    have hne := List.ne_nil_of_mem due
    rw [check?_of_left hafter, Flow.checksDue_withChecks hne, find?_filter_ne]
    by_cases hab : a = b
    · subst hab
      rw [if_pos rfl, check?_of_mem flow sound due]
      exact (Check.next?_of_verdict? verdict subject).symm
    · rw [if_neg hab, next?_of_unanswered fun k _ => not_answers_of_ne subject hab k,
        check?_of_flow flow]
  | keeps reaction unasked =>
    rw [next?_of_unanswered fun k hk => unasked _ (Flow.mem_awaits.2
      (.inr ⟨a, k, mem_of_check? flow hk, rfl⟩)), reaction]

/-- What one moment does to the check of an account: the answer that it waits for takes it further,
and nothing else does. -/
theorem check?_react (sound : c.Sound) (begun : c.Begun f) (m : Moment) (a : AccountId) :
    (c.react m).coordinator.check? f a = (c.check? f a).bind (·.next? f a m.event) := by
  cases target : m.event.target? with
  | none =>
    rw [next?_of_unanswered fun k _ => not_answers_of_other_target (by simp [target]) k]
    exact check?_congr (flow?_of_no_target target begun.1)
  | some g =>
    by_cases hfg : f = g
    · subst hfg
      cases hflow : c.flow? f with
      | none =>
        rw [react_of_gone target (by simp [role?, hflow]), check?_of_gone hflow]
        rfl
      | some fl =>
        obtain ⟨after, turn⟩ := exists_turn hflow (sound f fl hflow) target
        exact check?_turn turn hflow (sound f fl hflow) (fun p hp => begun.2 p (hp ▸ hflow)) a
    · have hother : m.event.target? ≠ some f := by simpa [target] using Ne.symm hfg
      rw [next?_of_unanswered fun k _ => not_answers_of_other_target hother k]
      exact check?_congr (flow?_react_of_ne target hfg)

/-! ## A run -/

/-- What is reported about an account at a moment. -/
theorem filter_reported (c : Coordinator) (f : Nat) (m : Moment) (a : AccountId) :
    (c.reported f m).filter (·.1 = a) =
      if m.event.subject? = some (f, a) then
        reportOf a (((c.check? f a).bind (·.verdict? m.event)).map
          fun v => ⟨v, m.surroundings.held.contains a⟩)
      else [] := by
  unfold reported
  cases hresult : c.result? m with
  | some r =>
    obtain ⟨g, b, v⟩ := r
    obtain ⟨hsubject, k, hk, hv⟩ := result?_eq_some.1 hresult
    dsimp only at hsubject hk hv ⊢
    by_cases hgb : g = f ∧ b = a
    · obtain ⟨rfl, rfl⟩ := hgb
      rw [if_pos hsubject, hk, Option.bind_some, hv, Option.map_some]
      cases m.surroundings.held.contains b <;> simp [reportOf]
    · have hsubject' : m.event.subject? ≠ some (f, a) := by simp [hsubject, hgb]
      rw [if_neg hsubject', List.filter_eq_nil_iff]
      intro e he
      split at he
      · next hg =>
        rw [List.mem_singleton] at he
        subst he
        simpa using fun hb => hgb ⟨hg.1, hb⟩
      · cases he
  | none =>
    by_cases hsubject : m.event.subject? = some (f, a)
    · rw [result?, hsubject] at hresult
      rw [if_pos hsubject, Option.map_eq_none_iff.1 hresult]
      rfl
    · rw [if_neg hsubject]
      rfl

/-- In a run, a check is reported about when it ends, and never again. -/
theorem filter_reports (sound : c.Sound) (begun : c.Begun f) (later : List Moment)
    (a : AccountId) :
    (c.reports f later).filter (·.1 = a) =
      reportOf a ((c.check? f a).bind fun k => k.verdictFrom f a later) := by
  induction later generalizing c with
  | nil =>
    cases hcheck : c.check? f a with
    | none => rfl
    | some k => cases k <;> rfl
  | cons m ms ih =>
    have hrest := ih (sound.react m) (begun.react sound m)
    rw [check?_react sound begun] at hrest
    rw [reports, List.filter_append, filter_reported, hrest]
    cases hcheck : c.check? f a with
    | none => simp [reportOf]
    | some k =>
      simp only [Option.bind_some, Check.verdictFrom_cons]
      cases hnext : k.next? f a m.event with
      | some k' =>
        have hquiet : m.event.subject? = some (f, a) → k.verdict? m.event = none := by
          intro hsubject
          rw [← Option.not_isSome_iff_eq_none, Option.isSome_iff_exists]
          rintro ⟨v, hv⟩
          rw [Check.next?_of_verdict? hv hsubject] at hnext
          cases hnext
        split
        · next hsubject => rw [hquiet hsubject]; rfl
        · rfl
      | none =>
        obtain ⟨hsubject, -⟩ := Check.verdict?_of_next?_eq_none hnext
        rw [if_pos hsubject]
        exact List.append_nil _

/-- A check that is over stays so. -/
theorem check?_run_of_none (sound : c.Sound) (begun : c.Begun f) (ended : c.check? f a = none)
    (later : List Moment) : (c.run later).check? f a = none := by
  induction later generalizing c with
  | nil => exact ended
  | cons m ms ih =>
    refine ih (sound.react m) (begun.react sound m) ?_
    rw [check?_react sound begun, ended]
    rfl

/-- A check is over when its verdict is there. -/
theorem check?_run_eq_none_iff (sound : c.Sound) (begun : c.Begun f) (hk : c.check? f a = some k)
    (later : List Moment) :
    (c.run later).check? f a = none ↔ (k.verdictFrom f a later).isSome = true := by
  induction later generalizing c k with
  | nil => cases k <;> simp [hk, Check.verdictFrom, tokenVerdict, ownerVerdict]
  | cons m ms ih =>
    have hreact := check?_react sound begun m a
    rw [hk, Option.bind_some] at hreact
    rw [run_cons, Check.verdictFrom_cons]
    cases hnext : k.next? f a m.event with
    | some k' => exact ih (sound.react m) (begun.react sound m) (hreact.trans hnext)
    | none =>
      obtain ⟨-, v, hv⟩ := Check.verdict?_of_next?_eq_none hnext
      have hover := check?_run_of_none (sound.react m) (begun.react sound m)
        (hreact.trans hnext) ms
      simp [hover, hv]

/-! ## A snapshot -/

theorem find?_checksOf (s : Surroundings) (a : AccountId) :
    ((checksOf s).find? (·.1 = a)).map (·.2) = if a ∈ s.held then some .minting else none := by
  unfold checksOf
  induction s.held with
  | nil => rfl
  | cons b l ih => grind

/-- Checks begin with the access tokens of all accounts that hold credentials. -/
theorem begun_of_begins (hc : Coherent c) (h : c.BeginsChecks m f) :
    (c.react m).coordinator.Begun f
      ∧ ∀ a, (c.react m).coordinator.check? f a =
        if a ∈ m.surroundings.held then some .minting else none := by
  have begun : ∀ fl, (c.react m).coordinator.flow? f = some fl → (∀ p, fl ≠ .queued p) →
      fl.checksDue = checksOf m.surroundings →
      (c.react m).coordinator.Begun f
        ∧ ∀ a, (c.react m).coordinator.check? f a =
          if a ∈ m.surroundings.held then some .minting else none := by
    intro fl hflow hturned hchecks
    refine ⟨⟨lt_nextFlow (hc.react m) (by rw [role?, hflow]; rfl), fun p hp => ?_⟩, fun a => ?_⟩
    · rw [hflow] at hp
      exact hturned p (Option.some.inj hp)
    · rw [check?_of_flow hflow, hchecks, find?_checksOf]
  cases h with
  | @pass f p flow event =>
    have hreact : c.react m = _ := congrArg (c.step m.surroundings) event
    have hflow : (c.react m).coordinator.flow? f
        = some (.pass p true (checksOf m.surroundings)) := by
      rw [hreact]
      simp only [step, launch, flow, flow?_closeChecks]
      exact flow?_update_self flow _
    exact begun _ hflow (by rintro _ ⟨⟩) rfl
  | trigger event held =>
    have hreact : c.react m = c.checkAccounts m.surroundings :=
      congrArg (c.step m.surroundings) event
    have hflow : (c.react m).coordinator.flow? c.nextFlow
        = some (.checking c.state.passId (checksOf m.surroundings)) := by
      rw [hreact, checkAccounts, if_neg (by simpa using held)]
      simp [flow?_enter, flow?_of_fresh hc (Nat.le_refl _)]
    exact begun _ hflow (by rintro _ ⟨⟩) rfl

/-- Every account of the snapshot is reported about once, when its check ends, unless it has lost
its credentials by then; and no other account is. -/
theorem filter_reports_of_begins (hc : Coherent c) (sound : c.Sound) (h : c.BeginsChecks m f)
    (later : List Moment) (a : AccountId) :
    ((c.react m).coordinator.reports f later).filter (·.1 = a) =
      if a ∈ m.surroundings.held then reportOf a (tokenVerdict f a later) else [] := by
  obtain ⟨begun, hcheck⟩ := begun_of_begins hc h
  rw [filter_reports (sound.react m) begun, hcheck]
  split <;> rfl

/-- The checks are over when all accounts of the snapshot have come to a verdict. -/
theorem returned_iff (hc : Coherent c) (sound : c.Sound) (h : c.BeginsChecks m f)
    (later : List Moment) :
    (∀ a, ((c.react m).coordinator.run later).check? f a = none)
      ↔ ∀ a ∈ m.surroundings.held, (tokenVerdict f a later).isSome = true := by
  obtain ⟨begun, hcheck⟩ := begun_of_begins hc h
  have hdue : ∀ a ∈ m.surroundings.held,
      (((c.react m).coordinator.run later).check? f a = none
        ↔ (tokenVerdict f a later).isSome = true) := fun a ha =>
    check?_run_eq_none_iff (sound.react m) begun ((hcheck a).trans (if_pos ha)) later
  constructor
  · exact fun hall a ha => (hdue a ha).1 (hall a)
  · intro hall a
    by_cases ha : a ∈ m.surroundings.held
    · exact (hdue a ha).2 (hall a ha)
    · exact check?_run_of_none (sound.react m) begun ((hcheck a).trans (if_neg ha)) later

/-! ## Where checks come from -/

theorem check?_of_entered {d : Coordinator} (fl : Flow) (gone : c.flow? f = none)
    (flow : ∀ g, d.flow? g = (c.enter fl).flow? g) (h : d.check? f a ≠ none) :
    f = c.nextFlow ∧ fl.checksDue ≠ [] := by
  have hflow := flow f
  rw [flow?_enter, gone, Option.none_or] at hflow
  split at hflow
  · next hf =>
    refine ⟨hf.symm, fun hnil => h ?_⟩
    rw [check?_of_flow hflow, hnil]
    rfl
  · exact absurd (check?_of_gone hflow) h

/-- A flow that begins with something that comes for none, and has checks due, begins to check. -/
theorem begins_of_entered (target : m.event.target? = none) (gone : c.flow? f = none)
    (due : (c.react m).coordinator.check? f a ≠ none) : c.BeginsChecks m f := by
  obtain ⟨s, event⟩ := m
  cases event with
  | start =>
    have hstart : c.start.1.check? f a ≠ none := due
    unfold start at hstart
    split at hstart
    · exact absurd (check?_of_gone gone) hstart
    · exact absurd rfl
        (check?_of_entered (.queued (c.state.passId + 1)) gone (fun _ => rfl) hstart).2
  | abort => exact absurd (check?_of_gone ((flow?_abort c f).trans gone)) due
  | readSession =>
    exact absurd rfl (check?_of_entered (.reading c.state.passId) gone (fun _ => rfl) due).2
  | removeAccount b =>
    exact absurd rfl (check?_of_entered (.removal b) gone (fun _ => rfl) due).2
  | checkAccounts =>
    have hcheck : (c.checkAccounts s).coordinator.check? f a ≠ none := due
    unfold checkAccounts at hcheck
    split at hcheck
    · exact absurd (check?_of_gone ((flow?_closeChecks c _ _ f).trans gone)) hcheck
    · next hheld =>
      obtain ⟨rfl, -⟩ := check?_of_entered _ gone (fun _ => rfl) hcheck
      exact .trigger rfl (by simpa using hheld)
  | launch | listed | minted | identified => simp [CoordinatorEvent.target?] at target

/-- A check that is due was due before, or its flow has just begun to check. -/
theorem check?_origin (hc : Coherent c) (sound : c.Sound)
    (due : (c.react m).coordinator.check? f a ≠ none) :
    c.check? f a ≠ none ∨ c.BeginsChecks m f := by
  by_cases begun : c.Begun f
  · refine .inl fun hnone => due ?_
    rw [check?_react sound begun, hnone]
    rfl
  · have kept : (c.react m).coordinator.flow? f = c.flow? f →
        c.check? f a ≠ none ∨ c.BeginsChecks m f := by
      intro hsame
      rw [check?_congr hsame] at due
      exact .inl due
    cases target : m.event.target? with
    | some g =>
      by_cases hfg : f = g
      · subst hfg
        cases hflow : c.flow? f with
        | none =>
          rw [react_of_gone target (by simp [role?, hflow])] at due
          exact .inl due
        | some fl =>
          obtain ⟨after, turn⟩ := exists_turn hflow (sound f fl hflow) target
          obtain ⟨p, rfl⟩ : ∃ p, fl = .queued p := by
            have hlt : f < c.nextFlow := lt_nextFlow hc (by rw [role?, hflow]; rfl)
            simpa [Begun, hlt, hflow] using begun
          cases turn with
          | launches reaction event => exact .inr (.pass hflow event)
          | advances token due => cases due
          | resolves v due => cases due
          | keeps reaction =>
            rw [reaction] at due
            exact .inl due
      · exact kept (flow?_react_of_ne target hfg)
    | none =>
      cases hflow : c.flow? f with
      | none => exact .inr (begins_of_entered target hflow due)
      | some fl =>
        have hlt : f < c.nextFlow := lt_nextFlow hc (by rw [role?, hflow]; rfl)
        exact kept (flow?_of_no_target target hlt)

theorem exists_beginning_of_run (hc : Coherent c) (sound : c.Sound) (past : List Moment)
    (due : (c.run past).check? f a ≠ none) :
    c.check? f a ≠ none
      ∨ ∃ before b after, past = before ++ b :: after ∧ (c.run before).BeginsChecks b f := by
  induction past generalizing c with
  | nil => exact .inl due
  | cons m ms ih =>
    rcases ih (hc.react m) (sound.react m) due with hdue | ⟨before, b, after, rfl, hb⟩
    · rcases check?_origin hc sound hdue with hold | hbegins
      · exact .inl hold
      · exact .inr ⟨[], m, ms, rfl, hbegins⟩
    · exact .inr ⟨m :: before, b, after, rfl, hb⟩

end

/-- A check that is due in a run was begun by its flow at some moment of it. -/
theorem exists_beginning (past : List Moment) {f : Nat} {a : AccountId}
    (due : (({} : Coordinator).run past).check? f a ≠ none) :
    ∃ before b after, past = before ++ b :: after
      ∧ (({} : Coordinator).run before).BeginsChecks b f :=
  (exists_beginning_of_run coherent_empty (sound_run []) past due).resolve_left (fun h => h rfl)

end Coordinator

end SessionSync
