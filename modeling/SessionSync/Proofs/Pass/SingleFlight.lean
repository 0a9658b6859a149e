import SessionSync.Proofs.Pass.Coherence

/-!
# One pass at a time, one plan for a pass

At most one pass is in flight, whatever happens and in which order, and a pass has the agent carry
out a plan at most once: at the moment of the last answer that it waits for, if it is still the
current pass and everything is known that a plan needs.

* `start_eq_none_iff` — a pass is started unless one is in flight.
* `current_unique` — no two flows carry out the pass in flight.
* `instructions_of_lastAnswer` — what the agent is told when a pass has got its last answer.
* `single_flight` — all of this for every run.
-/

namespace SessionSync.Coordinator

/-! ## The last answer of a pass -/

theorem state_finish (c : Coordinator) (s : Surroundings) (f p : Nat) :
    (c.finish s f p).coordinator.state =
      { c.state with started := c.state.started && c.state.passId ≠ p } := by
  unfold finish
  dsimp only [leave]
  split
  · next h => simp [h.1]
  · next h =>
    have hs : (c.state.started && c.state.passId ≠ p) = c.state.started := by
      cases hst : c.state.started with
      | false => rfl
      | true => simpa [hst] using h
    rw [hs]

theorem instructions_finish (c : Coordinator) (s : Surroundings) (f p : Nat) :
    (c.finish s f p).instructions =
      if (c.state.passId = p ∧ c.state.started = true) ∧ c.state.isReady = true then
        planned c.state s.primary
      else [] := by
  unfold finish
  dsimp only [leave]
  by_cases h : c.state.passId = p ∧ c.state.started = true
  · rw [if_pos h]
    by_cases hr : c.state.isReady = true <;> simp [h, hr]
  · rw [if_neg h, if_neg (fun hk => h hk.1)]

theorem proceed_nil (c : Coordinator) (s : Surroundings) (f p : Nat) :
    c.proceed s f p false [] = c.finish s f p := rfl

/-- With its last answer a pass ends, for a coordinator that has learned from that answer. -/
theorem finish_of_lastAnswer {c : Coordinator} {m : Moment} {f p : Nat}
    (h : c.LastAnswer f p m.event) :
    ∃ d, SamePass c d ∧ c.react m = d.finish m.surroundings f p := by
  obtain ⟨s, event⟩ := m
  have hresolve : ∀ a v checks, c.flow? f = some (.pass p false checks) → (∀ k ∈ checks, k.1 = a) →
      ∃ d, SamePass c d ∧ c.resolve s f a v = d.finish s f p := by
    intro a v checks hf hall
    have hempty : checks.filter (·.1 ≠ a) = [] := by simpa using hall
    refine ⟨(c.recordCheck s p a v).closeChecks p [], ?_, ?_⟩
    · exact (samePass_recordCheck c s p a v).trans (samePass_closeChecks _ _ _)
    · simp only [resolve, hf, Option.bind_some, Flow.checks?, continueWith, flow?_recordCheck,
        hempty, proceed_nil]
  cases event with
  | listed g answer =>
    obtain ⟨rfl, hf⟩ := h
    refine ⟨c.learnAnswer p answer, samePass_learnAnswer c p answer, ?_⟩
    show c.listed s g answer = _
    rw [listed_of_pass hf, proceed_nil]
  | minted g a answer =>
    cases answer with
    | ok token => exact h.elim
    | error e =>
      obtain ⟨rfl, hcheck, checks, hf, hall⟩ := h
      simp only [react, step, minted, hcheck]
      exact hresolve a .invalid checks hf hall
  | identified g a answer =>
    obtain ⟨rfl, ⟨token, hcheck⟩, checks, hf, hall⟩ := h
    simp only [react, step, identified, hcheck]
    cases answer with
    | ok owner => exact hresolve a .valid checks hf hall
    | error e => exact hresolve a .invalid checks hf hall
  | start | abort | launch | readSession | checkAccounts | removeAccount => exact h.elim

theorem role?_of_lastAnswer {c : Coordinator} {f p : Nat} {e : CoordinatorEvent}
    (h : c.LastAnswer f p e) : c.role? f = some (.pass p) := by
  unfold role?
  cases e with
  | listed g answer => rw [h.2]; rfl
  | minted g a answer =>
    cases answer with
    | ok token => exact h.elim
    | error e => obtain ⟨-, -, checks, hf, -⟩ := h; rw [hf]; rfl
  | identified g a answer => obtain ⟨-, -, checks, hf, -⟩ := h; rw [hf]; rfl
  | start | abort | launch | readSession | checkAccounts | removeAccount => exact h.elim

theorem target?_of_lastAnswer {c : Coordinator} {f p : Nat} {e : CoordinatorEvent}
    (h : c.LastAnswer f p e) : e.target? = some f := by
  cases e with
  | listed g answer => rw [← h.1]; rfl
  | minted g a answer =>
    cases answer with
    | ok token => exact h.elim
    | error e => rw [← h.1]; rfl
  | identified g a answer => rw [← h.1]; rfl
  | start | abort | launch | readSession | checkAccounts | removeAccount => exact h.elim

/-- What the agent is told when a pass has got its last answer: the plan for what is known then, if
the pass is still the current one and all that a plan needs is known. -/
theorem instructions_of_lastAnswer {c : Coordinator} {m : Moment} {f p : Nat}
    (h : c.LastAnswer f p m.event) :
    (c.react m).instructions =
      if (c.state.passId = p ∧ c.state.started = true)
          ∧ (c.react m).coordinator.state.isReady = true then
        planned (c.react m).coordinator.state m.surroundings.primary
      else [] := by
  obtain ⟨d, hsame, hr⟩ := finish_of_lastAnswer h
  rw [hr, instructions_finish, hsame.1, hsame.2, state_finish]
  rfl

/-- A pass that has got its last answer has come to its end. -/
theorem role?_after_lastAnswer {c : Coordinator} {m : Moment} {f p : Nat}
    (h : c.LastAnswer f p m.event) : (c.react m).coordinator.role? f = none := by
  obtain ⟨d, -, hr⟩ := finish_of_lastAnswer h
  have hflow : (d.finish m.surroundings f p).coordinator.flow? f = none := by
    unfold finish
    dsimp only
    split
    · exact (flow?_leave d f f).trans (if_pos rfl)
    · exact (flow?_leave d f f).trans (if_pos rfl)
  rw [hr, role?, hflow]
  rfl

/-- Only a pass that gets its last answer has an action carried out. -/
theorem quiet_of_not_lastAnswer {c : Coordinator} {m : Moment}
    (h : ∀ f p, ¬ c.LastAnswer f p m.event) (a : Action) :
    Instruction.perform a ∉ (c.react m).instructions := by
  cases change_react c m with
  | stays same roles quiet => exact quiet a
  | enters role kind same roles quiet => exact quiet a
  | leaves f kind same roles quiet => exact quiet a
  | begins idle event state roles quiet => simp [quiet]
  | abandons started event state roles quiet => simp [quiet]
  | removes f account role event started state roles quiet => exact quiet a
  | concludes f p last => exact absurd last (h f p)

/-- An action is carried out only with an answer to the pass in flight. -/
theorem current_of_perform {c : Coordinator} {m : Moment} {a : Action}
    (h : Instruction.perform a ∈ (c.react m).instructions) :
    ∃ f, m.event.target? = some f ∧ c.Current f := by
  by_cases hlast : ∃ f p, c.LastAnswer f p m.event
  · obtain ⟨f, p, last⟩ := hlast
    rw [instructions_of_lastAnswer last] at h
    split at h
    · next hcurrent =>
      obtain ⟨⟨rfl, hstarted⟩, -⟩ := hcurrent
      exact ⟨f, target?_of_lastAnswer last, hstarted, role?_of_lastAnswer last⟩
    · cases h
  · exact absurd h (quiet_of_not_lastAnswer (fun f p last => hlast ⟨f, p, last⟩) a)

/-- A pass gets its last answer once: never again, by whichever flow. -/
theorem not_lastAnswer_again {c : Coordinator} (hc : Coherent c) {m : Moment} {f p : Nat}
    (h : c.LastAnswer f p m.event) (ms : List Moment) (g : Nat) (e : CoordinatorEvent) :
    ¬ ((c.react m).coordinator.run ms).LastAnswer g p e := by
  intro hlater
  have hrole := role?_of_lastAnswer h
  have hle : p ≤ c.state.passId := hc.bounded f p (.inl hrole)
  have hnow : c.role? g = some (.pass p) :=
    pass_of_run hc (m :: ms) (role?_of_lastAnswer hlater) hle
  obtain rfl : g = f := hc.unique g f p hnow hrole
  have hafter : (c.react m).coordinator.role? g = some (.pass p) :=
    pass_of_run (hc.react m) ms (role?_of_lastAnswer hlater) (by rw [passId_react]; omega)
  rw [role?_after_lastAnswer h] at hafter
  cases hafter

/-! ## The pass in flight -/

/-- No two flows carry out the pass in flight. -/
theorem current_unique {c : Coordinator} (hc : Coherent c) {f g : Nat} (hf : c.Current f)
    (hg : c.Current g) : f = g :=
  hc.unique f g _ hf.2 hg.2

theorem started_iff_current {c : Coordinator} (hc : Coherent c) :
    c.state.started = true ↔ ∃ f, c.Current f := by
  constructor
  · intro hs
    obtain ⟨f, hf⟩ := hc.carried.1 hs
    exact ⟨f, hs, hf⟩
  · rintro ⟨f, hs, -⟩
    exact hs

/-- A start is refused exactly while a pass is in flight. -/
theorem start_eq_none_iff {c : Coordinator} (hc : Coherent c) :
    c.start.2 = none ↔ ∃ f, c.Current f := by
  rw [← started_iff_current hc]
  unfold start
  split
  · next h => simp [h]
  · next h => simp [h]

/-- A start that is refused leaves everything as it is. -/
theorem start_of_refused {c : Coordinator} (h : c.start.2 = none) : c.start.1 = c := by
  unfold start at h ⊢
  split
  · rfl
  · next hs => simp [hs] at h

/-! ## Single flight -/

/-- In every run a pass is started exactly when none is in flight, and a start that is refused
changes nothing; at most one flow carries out the pass in flight; and actions are carried out only
at the moment at which a pass gets its last answer, which a pass does at most once: the planned ones
if the pass is still the current one and the session and all tokens are known, and none otherwise,
when nobody is signed in or when no plan can be made. The number of the current pass counts how
often the state has been reset. -/
theorem single_flight (ms : List Moment) :
    let c := ({} : Coordinator).run ms
    c.state.passId = ({} : Coordinator).resetsIn ms
      ∧ (c.start.2.isSome = true ↔ ¬ ∃ f, c.Current f)
      ∧ (c.start.2 = none → c.start.1 = c)
      ∧ (∀ f g, c.Current f → c.Current g → f = g)
      ∧ ∀ m,
        let st := (c.react m).coordinator.state
        let told := (c.react m).instructions
        ((∀ f p, ¬ c.LastAnswer f p m.event) → ∀ a, Instruction.perform a ∉ told)
          ∧ ∀ f p, c.LastAnswer f p m.event →
            (¬ (c.Current f ∧ st.sessionRead = true ∧ st.tokensChecked = true) → told = [])
              ∧ (c.Current f → st.sessionRead = true → st.tokensChecked = true →
                told = match m.surroundings.primary with
                  | none => []
                  | some primary =>
                    match plan primary st.session st.valid st.invalid with
                    | .ok actions => actions.map Instruction.perform
                    | .error _ => [])
              ∧ ∀ later g e, ¬ ((c.react m).coordinator.run later).LastAnswer g p e := by
  intro c
  have hc : Coherent c := coherent_run ms
  refine ⟨?_, ?_, start_of_refused, fun f g => current_unique hc, fun m => ?_⟩
  · exact (passId_run {} ms).trans (Nat.zero_add _)
  · rw [← start_eq_none_iff hc, Option.isSome_iff_ne_none]
  · intro st told
    refine ⟨quiet_of_not_lastAnswer, fun f p hlast => ⟨fun hnot => ?_,
      fun hcur hread hchecked => ?_, fun later g e => not_lastAnswer_again hc hlast later g e⟩⟩
    · have hrole := role?_of_lastAnswer hlast
      refine (instructions_of_lastAnswer hlast).trans (if_neg ?_)
      rintro ⟨⟨hp, hs⟩, hready⟩
      rw [PassState.isReady, Bool.and_eq_true] at hready
      exact hnot ⟨⟨hs, hp ▸ hrole⟩, hready⟩
    · have hrole := role?_of_lastAnswer hlast
      have hp : c.state.passId = p := by
        have := hcur.2.symm.trans hrole
        injection this with this
        injection this
      have hready : st.isReady = true := by rw [PassState.isReady, hread, hchecked]; rfl
      exact (instructions_of_lastAnswer hlast).trans (if_pos ⟨⟨hp, hcur.1⟩, hready⟩)

end SessionSync.Coordinator
