import SessionSync.Proofs.Pass.Coherence
import SessionSync.Supervision.Supervisor

/-!
# Passes that have been given up

A pass that is no longer the current one goes on waiting for its answers, and nothing that it gets
has any effect. The same holds of a reading or a checking that was begun before a reset.

* `react_of_stale` — the four places at which a flow writes look at the number of the pass.
* `stale_run` — a pass that is not in flight never is again, and stays without effect.
* `state_of_undisturbed` — with no pass in flight, only direct triggers and starts change what is
  known.
* `stale_passes_are_inert` — all of this for every run.
* `contents_changed_by_earlier_trigger` — what a finished pass has left may still be changed by a
  reading that was begun before the pass ended.
-/

namespace SessionSync.Coordinator

/-! ## Writes under an old number -/

theorem learn_of_ne {c : Coordinator} {p : Nat} (h : c.state.passId ≠ p)
    (change : PassState → PassState) : c.learn p change = c :=
  if_neg h

theorem closeChecks_of_ne {c : Coordinator} {p : Nat} (h : c.state.passId ≠ p) (checks : Checks) :
    c.closeChecks p checks = c := by
  unfold closeChecks
  split
  · exact learn_of_ne h _
  · rfl

theorem learnAnswer_of_ne {c : Coordinator} {p : Nat} (h : c.state.passId ≠ p)
    (answer : Except CallError String) : c.learnAnswer p answer = c := by
  unfold learnAnswer
  split
  · exact learn_of_ne h _
  · rfl

theorem recordCheck_of_ne {c : Coordinator} {p : Nat} (h : c.state.passId ≠ p) (s : Surroundings)
    (a : AccountId) (v : Validity) : c.recordCheck s p a v = c := by
  unfold recordCheck
  split
  · exact learn_of_ne h _
  · rfl

/-- Nothing has been learned and the agent has been told nothing. -/
def Inert (c : Coordinator) (r : Reaction) : Prop :=
  r.coordinator.state = c.state ∧ r.instructions = []

theorem inert_proceed {c : Coordinator} {p : Nat} (h : c.state.passId ≠ p) (s : Surroundings)
    (f : Nat) (listDue : Bool) (checks : Checks) : Inert c (c.proceed s f p listDue checks) := by
  unfold proceed
  split
  · unfold finish
    dsimp only [leave]
    rw [if_neg (fun hk => h hk.1)]
    exact ⟨rfl, rfl⟩
  · exact ⟨rfl, rfl⟩

theorem inert_resolve {c : Coordinator} {f : Nat} (s : Surroundings) (a : AccountId) (v : Validity)
    (h : ∀ p checks, (c.flow? f).bind Flow.checks? = some (p, checks) → c.state.passId ≠ p) :
    Inert c (c.resolve s f a v) := by
  unfold resolve
  split
  · next p checks hchecks =>
    have hne := h p checks hchecks
    rw [recordCheck_of_ne hne]
    unfold continueWith
    cases hf : c.flow? f with
    | none => exact ⟨rfl, rfl⟩
    | some fl =>
      rw [hf] at hchecks
      cases fl with
      | pass q listDue old =>
        obtain ⟨rfl, rfl⟩ : q = p ∧ old = checks := by simpa [Flow.checks?] using hchecks
        dsimp only
        rw [closeChecks_of_ne hne]
        exact inert_proceed hne s f listDue _
      | checking q old =>
        obtain ⟨rfl, rfl⟩ : q = p ∧ old = checks := by simpa [Flow.checks?] using hchecks
        dsimp only
        rw [closeChecks_of_ne hne]
        refine ⟨?_, rfl⟩
        split <;> rfl
      | queued | reading | removal => exact ⟨rfl, rfl⟩
  · exact ⟨rfl, rfl⟩

section

variable {c : Coordinator} {f p : Nat} {fl : Flow}

theorem inert_launch (hfl : c.flow? f = some fl) (role : fl.role = .pass p ∨ fl.role = .trigger p)
    (stale : c.state.passId ≠ p) (s : Surroundings) : Inert c (c.launch s f) := by
  cases fl with
  | queued q =>
    obtain rfl : q = p := by simpa [Flow.role] using role
    simp only [launch, hfl]
    rw [closeChecks_of_ne (c := c.update f _) stale]
    exact ⟨rfl, rfl⟩
  | pass | reading | checking | removal =>
    simp only [launch, hfl]
    exact ⟨rfl, rfl⟩

theorem inert_listed (hfl : c.flow? f = some fl) (role : fl.role = .pass p ∨ fl.role = .trigger p)
    (stale : c.state.passId ≠ p) (s : Surroundings) (answer : Except CallError String) :
    Inert c (c.listed s f answer) := by
  cases fl with
  | pass q listDue checks =>
    obtain rfl : q = p := by simpa [Flow.role] using role
    cases listDue with
    | true =>
      rw [listed_of_pass hfl, learnAnswer_of_ne stale]
      exact inert_proceed stale s f false checks
    | false =>
      simp only [listed, hfl]
      exact ⟨rfl, rfl⟩
  | reading q =>
    obtain rfl : q = p := by simpa [Flow.role] using role
    rw [listed_of_reading hfl, learnAnswer_of_ne stale]
    exact ⟨rfl, rfl⟩
  | removal a => simp [Flow.role] at role
  | queued | checking =>
    simp only [listed, hfl]
    exact ⟨rfl, rfl⟩

/-- What a flow gets has no effect once the pass that it records for is no longer the current one.
-/
theorem react_of_stale {m : Moment} (target : m.event.target? = some f)
    (role : c.role? f = some (.pass p) ∨ c.role? f = some (.trigger p))
    (stale : c.state.passId ≠ p) : Inert c (c.react m) := by
  obtain ⟨s, event⟩ := m
  obtain ⟨fl, hfl, hrole⟩ : ∃ fl, c.flow? f = some fl ∧
      (fl.role = .pass p ∨ fl.role = .trigger p) := by
    unfold role? at role
    cases hfl : c.flow? f with
    | none => simp [hfl] at role
    | some fl => exact ⟨fl, rfl, by simpa [hfl] using role⟩
  have hchecks : ∀ q checks, (c.flow? f).bind Flow.checks? = some (q, checks) →
      c.state.passId ≠ q := by
    intro q checks hq
    rw [hfl] at hq
    cases fl <;> simp_all [Flow.checks?, Flow.role]
  cases event with
  | launch g =>
    obtain rfl : g = f := by simpa [CoordinatorEvent.target?] using target
    exact inert_launch hfl hrole stale s
  | listed g answer =>
    obtain rfl : g = f := by simpa [CoordinatorEvent.target?] using target
    exact inert_listed hfl hrole stale s answer
  | minted g a answer =>
    obtain rfl : g = f := by simpa [CoordinatorEvent.target?] using target
    simp only [react, step, minted]
    split
    · cases answer with
      | ok token => exact ⟨state_identify c g a token, rfl⟩
      | error e => exact inert_resolve s a .invalid hchecks
    · exact ⟨rfl, rfl⟩
  | identified g a answer =>
    obtain rfl : g = f := by simpa [CoordinatorEvent.target?] using target
    simp only [react, step, identified]
    split
    · cases answer with
      | ok owner => exact inert_resolve s a .valid hchecks
      | error e => exact inert_resolve s a .invalid hchecks
    · exact ⟨rfl, rfl⟩
  | start | abort | readSession | checkAccounts | removeAccount =>
    simp [CoordinatorEvent.target?] at target

end

theorem inert_of_gone {c : Coordinator} {m : Moment} {f : Nat} (target : m.event.target? = some f)
    (gone : c.role? f = none) : Inert c (c.react m) := by
  rw [react_of_gone target gone]
  exact ⟨rfl, rfl⟩

/-! ## Passes that are not in flight -/

theorem passId_ne_of_not_current {c : Coordinator} (hc : Coherent c) {f p : Nat}
    (role : c.role? f = some (.pass p)) (h : ¬ c.Current f) : c.state.passId ≠ p := by
  rintro rfl
  exact h ⟨hc.carried.2 ⟨f, role⟩, role⟩

theorem passId_le_run (c : Coordinator) (ms : List Moment) :
    c.state.passId ≤ (c.run ms).state.passId := by
  rw [passId_run]
  exact Nat.le_add_right _ _

theorem passId_start {c : Coordinator} (h : c.start.2.isSome = true) :
    c.start.1.state.passId = c.state.passId + 1 := by
  unfold start at h ⊢
  split
  · next hs => simp [hs] at h
  · rfl

/-- A pass that is not in flight never is again. -/
theorem not_current_run {c : Coordinator} (hc : Coherent c) {f p : Nat}
    (role : c.role? f = some (.pass p)) (h : ¬ c.Current f) (ms : List Moment) :
    ¬ (c.run ms).Current f := by
  rintro ⟨-, hrole⟩
  have hle := passId_le_run c ms
  have hlt : p < c.state.passId :=
    Nat.lt_of_le_of_ne (hc.bounded f p (.inl role)) (passId_ne_of_not_current hc role h).symm
  rcases role?_run hc ms (lt_nextFlow hc role) with hr | hr
  · rw [hr, role] at hrole
    injection hrole with hrole
    injection hrole with hrole
    omega
  · rw [hr] at hrole
    cases hrole

/-- What a pass that is not in flight gets in the rest of a run has no effect. -/
theorem stale_run {c : Coordinator} (hc : Coherent c) {f p : Nat}
    (role : c.role? f = some (.pass p)) (h : ¬ c.Current f) (ms : List Moment) {m : Moment}
    (target : m.event.target? = some f) : Inert (c.run ms) ((c.run ms).react m) := by
  rcases role?_run hc ms (lt_nextFlow hc role) with hr | hr
  · rw [role] at hr
    exact react_of_stale target (.inl hr)
      (passId_ne_of_not_current (hc.run ms) hr (not_current_run hc role h ms))
  · exact inert_of_gone target hr

/-- A reset leaves no pass in flight that had begun before. -/
theorem not_current_of_resets {c : Coordinator} (hc : Coherent c) {m : Moment}
    (h : c.resets m.event = true) {f p : Nat} (role : c.role? f = some (.pass p)) :
    ¬ (c.react m).coordinator.Current f := by
  rintro ⟨-, hrole⟩
  have hle := hc.bounded f p (.inl role)
  have hpassId := passId_of_resets h
  rcases role?_react hc m (lt_nextFlow hc role) with hr | hr
  · rw [hr, role] at hrole
    injection hrole with hrole
    injection hrole with hrole
    omega
  · rw [hr] at hrole
    cases hrole

/-! ## Direct triggers -/

/-- What a flow that was begun under the current number gets later has an effect only if the state
has not been reset since. -/
theorem no_reset_of_effect {c : Coordinator} (hc : Coherent c) {f : Nat}
    (role : c.role? f = some (.trigger c.state.passId)) (ms : List Moment) {m : Moment}
    (target : m.event.target? = some f)
    (effect : ((c.run ms).react m).coordinator.state ≠ (c.run ms).state) : c.resetsIn ms = 0 := by
  rcases role?_run hc ms (lt_nextFlow hc role) with hr | hr
  · rw [role] at hr
    have hpassId := passId_run c ms
    have hsame : (c.run ms).state.passId = c.state.passId :=
      Classical.byContradiction fun hne => effect (react_of_stale target (.inr hr) hne).1
    omega
  · exact absurd (inert_of_gone target hr).1 effect

/-! ## Between passes -/

/-- The event neither starts a pass nor has to do with a direct trigger: it calls none, and it
brings none an answer. -/
def Undisturbed (c : Coordinator) (e : CoordinatorEvent) : Prop :=
  e ≠ .start ∧ e ≠ .readSession ∧ e ≠ .checkAccounts ∧
    ∀ f p, e.target? = some f → c.role? f ≠ some (.trigger p)

theorem state_of_undisturbed {c : Coordinator} (hc : Coherent c) (idle : c.state.started = false)
    {m : Moment} (h : c.Undisturbed m.event) : (c.react m).coordinator.state = c.state := by
  obtain ⟨hstart, hread, hcheck, hanswer⟩ := h
  cases htarget : m.event.target? with
  | some f =>
    cases hrole : c.role? f with
    | none => exact (inert_of_gone htarget hrole).1
    | some role =>
      cases role with
      | pass p =>
        have hnot : ¬ c.Current f := fun hcur => by rw [hcur.1] at idle; cases idle
        exact (react_of_stale htarget (.inl hrole) (passId_ne_of_not_current hc hrole hnot)).1
      | trigger p => exact absurd hrole (hanswer f p htarget)
      | removal a =>
        obtain ⟨fl, hf, hfl⟩ := Option.map_eq_some_iff.1 hrole
        obtain ⟨s, event⟩ := m
        have hkeep : c.abort = c := if_neg (by simp [idle])
        cases fl <;> simp only [Flow.role, reduceCtorEq] at hfl
        cases event <;>
          simp only [CoordinatorEvent.target?, reduceCtorEq, Option.some.injEq] at htarget
        all_goals subst htarget
        · simp [react, step, launch, hf]
        · simp only [react, step, listed, hf, hkeep]
          cases accountsOfAnswer _ <;> rfl
        · simp [react, step, minted, check?, hf, Flow.checks?]
        · simp [react, step, identified, check?, hf, Flow.checks?]
  | none =>
    obtain ⟨s, event⟩ := m
    cases event with
    | start => exact absurd rfl hstart
    | readSession => exact absurd rfl hread
    | checkAccounts => exact absurd rfl hcheck
    | removeAccount a => rfl
    | abort =>
      have hkeep : c.abort = c := if_neg (by simp [idle])
      exact congrArg Coordinator.state hkeep
    | launch | listed | minted | identified => simp [CoordinatorEvent.target?] at htarget

theorem run_of_undisturbed {c : Coordinator} (hc : Coherent c) (idle : c.state.started = false)
    (ms : List Moment)
    (h : ∀ before m after, ms = before ++ m :: after → (c.run before).Undisturbed m.event) :
    (c.run ms).state = c.state := by
  induction ms generalizing c with
  | nil => rfl
  | cons m ms ih =>
    have hkeep := state_of_undisturbed hc idle (h [] m ms rfl)
    rw [run_cons, ih (hc.react m) (by rw [hkeep]; exact idle) ?_, hkeep]
    intro before m' after hms
    exact h (m :: before) m' after (by rw [hms]; rfl)

/-! ## Passes that have been given up are inert -/

/-- In every run: a reset ends the flight of every pass begun before, and signing out orders one; a
pass that is not in flight never is again, and nothing that it still gets is recorded or has the
agent told anything; a pass that is started later has a greater number; what a direct trigger gets
is recorded only if the state has not been reset since the trigger was called; an abort with no pass
in flight changes nothing; and what is known with no pass in flight stays as it is until the next
start, the next direct trigger, or an answer to a direct trigger called before. -/
theorem stale_passes_are_inert (ms : List Moment) :
    let c := ({} : Coordinator).run ms
    (∀ m f p, c.resets m.event = true → c.role? f = some (.pass p) →
        ¬ (c.react m).coordinator.Current f)
      ∧ (∀ sup : Supervisor, Order.abortPass ∈ (sup.handle .signedOut).2)
      ∧ (∀ f p, c.role? f = some (.pass p) → ¬ c.Current f → ∀ later,
          ¬ (c.run later).Current f ∧ ∀ m, m.event.target? = some f →
            ((c.run later).react m).coordinator.state = (c.run later).state
              ∧ ((c.run later).react m).instructions = [])
      ∧ (c.start.2.isSome = true → ∀ later, (c.start.1.run later).start.2.isSome = true →
          c.start.1.state.passId < (c.start.1.run later).start.1.state.passId)
      ∧ (∀ s trigger, trigger = .readSession ∨ trigger = .checkAccounts ∧ s.held ≠ [] →
          let called := (c.step s trigger).coordinator
          ∀ later m, m.event.target? = some c.nextFlow →
            ((called.run later).react m).coordinator.state ≠ (called.run later).state →
            called.resetsIn later = 0)
      ∧ ((∀ f, ¬ c.Current f) → ∀ s,
          (c.step s .abort).coordinator = c ∧ (c.step s .abort).instructions = [])
      ∧ ((∀ f, ¬ c.Current f) → ∀ later,
          (∀ before m after, later = before ++ m :: after → (c.run before).Undisturbed m.event) →
          (c.run later).state = c.state) := by
  intro c
  have hc : Coherent c := coherent_run ms
  have hidle : (∀ f, ¬ c.Current f) → c.state.started = false := by
    intro h
    rw [← Bool.not_eq_true]
    intro hs
    obtain ⟨f, hf⟩ := hc.carried.1 hs
    exact h f ⟨hs, hf⟩
  refine ⟨fun m f p hreset hrole => not_current_of_resets hc hreset hrole,
    fun sup => by simp [Supervisor.handle, Supervisor.signedOut],
    fun f p hrole hcur later => ⟨not_current_run hc hrole hcur later,
      fun m target => stale_run hc hrole hcur later target⟩, ?_, ?_, ?_, ?_⟩
  · intro hfirst later hsecond
    have hle := passId_le_run c.start.1 later
    rw [passId_start hsecond]
    omega
  · intro s trigger htrigger called later m target effect
    refine no_reset_of_effect (hc.react ⟨s, trigger⟩) ?_ later target effect
    have hentered : ∀ fl, fl.role = .trigger c.state.passId →
        (c.enter fl).role? c.nextFlow = some (.trigger (c.enter fl).state.passId) := by
      intro fl hfl
      rw [(entered_enter c fl).role? hc, if_pos rfl, hfl]
      rfl
    rcases htrigger with rfl | ⟨rfl, hheld⟩
    · exact hentered (.reading c.state.passId) rfl
    · have hstep : c.react ⟨s, .checkAccounts⟩ = _ := if_neg (by simpa using hheld)
      rw [hstep]
      exact hentered (.checking c.state.passId (checksOf s)) rfl
  · intro h s
    have hkeep : c.abort = c := if_neg (by simp [hidle h])
    exact ⟨hkeep, rfl⟩
  · intro h later hquiet
    exact run_of_undisturbed hc (hidle h) later hquiet

/-- A run in which a pass reads the session and ends, with a reading still under way that was begun
while the pass was in flight. -/
def passWithReading : List Moment :=
  [⟨⟨[], none⟩, .start⟩, ⟨⟨[], none⟩, .launch 0⟩, ⟨⟨[], none⟩, .readSession⟩,
    ⟨⟨[], none⟩, .listed 0 (.ok "[0,[[0,0,0,\"a\"]]]")⟩]

/-- What a finished pass has left does not stay until the next start or the next call of a direct
trigger: the answer to a reading that was begun before the pass ended replaces it. -/
theorem contents_changed_by_earlier_trigger :
    let c := ({} : Coordinator).run passWithReading
    let m : Moment := ⟨⟨[], none⟩, .listed 1 (.ok "[0,[]]")⟩
    (∀ f, ¬ c.Current f)
      ∧ (m.event ≠ .start ∧ m.event ≠ .readSession ∧ m.event ≠ .checkAccounts)
      ∧ c.state.session = [⟨"a"⟩] ∧ (c.react m).coordinator.state.session = [] := by
  have hidle : (({} : Coordinator).run passWithReading).state.started = false := by decide +kernel
  refine ⟨fun f hf => ?_, ⟨nofun, nofun, nofun⟩, by decide +kernel, by decide +kernel⟩
  rw [hf.1] at hidle
  cases hidle

end SessionSync.Coordinator
