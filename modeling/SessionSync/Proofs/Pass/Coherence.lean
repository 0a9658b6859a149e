import SessionSync.Proofs.Pass.Runs

/-!
# The invariant of runs

What holds of the coordinator at every moment of every run, whatever happens and in which order.

* `passId_run` — the number of the current pass counts the resets.
* `Coherent` and `coherent_run` — a pass is in flight exactly when a flow carries out the current
  pass, and no two flows carry out the same pass.
* `role?_run` — a flow keeps its purpose until it ends, and its number is not used again.
-/

namespace SessionSync.Coordinator

/-! ## Resets -/

/-- Whether an event puts the state of a pass back to nothing: a pass begins, or the pass in flight
is given up, by an abort or by a removal that could read the session. -/
def resets (c : Coordinator) : CoordinatorEvent → Bool
  | .start => !c.state.started
  | .abort => c.state.started
  | .listed f answer =>
    match c.role? f, accountsOfAnswer answer with
    | some (.removal _), .ok _ => c.state.started
    | _, _ => false
  | _ => false

/-- How often a run puts the state of a pass back to nothing. -/
def resetsIn (c : Coordinator) : List Moment → Nat
  | [] => 0
  | m :: ms => (if c.resets m.event then 1 else 0) + resetsIn (c.react m).coordinator ms

theorem passId_of_resets {c : Coordinator} {m : Moment} (h : c.resets m.event = true) :
    (c.react m).coordinator.state.passId = c.state.passId + 1 := by
  obtain ⟨s, event⟩ := m
  cases event with
  | start =>
    have hidle : c.state.started = false := by simpa [resets] using h
    simp [react, step, start, hidle, enter, PassState.begin]
  | abort =>
    have hs : c.state.started = true := h
    simp [react, step, abort, hs, PassState.idle]
  | listed f answer =>
    simp only [resets] at h
    split at h
    · next a accounts hrole hok =>
      obtain ⟨fl, hfl, hkind⟩ := Option.map_eq_some_iff.1 hrole
      cases fl <;> simp only [Flow.role, reduceCtorEq] at hkind
      simp [react, step, listed, hfl, hok, leave, abort, h, PassState.idle]
    · cases h
  | launch | readSession | checkAccounts | removeAccount | minted | identified => cases h

/-- The number of the current pass counts the resets. -/
theorem passId_react (c : Coordinator) (m : Moment) :
    (c.react m).coordinator.state.passId = c.state.passId + if c.resets m.event then 1 else 0 := by
  by_cases h : c.resets m.event = true
  · rw [passId_of_resets h, if_pos h]
  · rw [if_neg h]
    cases change_react c m with
    | stays same => exact same.1
    | enters role kind same => exact same.1
    | leaves f kind same => exact same.1
    | begins idle event => simp [resets, event, idle] at h
    | abandons started event => simp [resets, event, started] at h
    | removes f a role event started =>
      obtain ⟨answer, accounts, event, hok⟩ := event
      simp [resets, event, role, hok, started] at h
    | concludes f p last role passId => exact passId

theorem passId_run (c : Coordinator) (ms : List Moment) :
    (c.run ms).state.passId = c.state.passId + c.resetsIn ms := by
  induction ms generalizing c with
  | nil => rfl
  | cons m ms ih =>
    rw [run_cons, ih, passId_react, resetsIn]
    omega

/-! ## The invariant -/

/-- What holds of the coordinator at every moment of a run. -/
structure Coherent (c : Coordinator) : Prop where
  /-- Numbers of flows to come are not in use. -/
  fresh : ∀ g, c.nextFlow ≤ g → c.role? g = none
  /-- No flow is for a pass that has not begun. -/
  bounded : ∀ f p, c.role? f = some (.pass p) ∨ c.role? f = some (.trigger p) → p ≤ c.state.passId
  /-- No two flows carry out the same pass. -/
  unique : ∀ f g p, c.role? f = some (.pass p) → c.role? g = some (.pass p) → f = g
  /-- A pass is in flight exactly when a flow carries out the current pass. -/
  carried : c.state.started = true ↔ ∃ f, c.role? f = some (.pass c.state.passId)

theorem coherent_empty : Coherent {} where
  fresh _ _ := rfl
  bounded f p h := by rcases h with h | h <;> cases h
  unique f g p h := by cases h
  carried := by
    constructor
    · intro h; cases h
    · rintro ⟨f, h⟩; cases h

theorem Entered.role? {c d : Coordinator} {role : Role} (h : Entered c d role) (hc : Coherent c)
    (g : Nat) : d.role? g = if g = c.nextFlow then some role else c.role? g := by
  rw [h.2 g]
  by_cases hg : g = c.nextFlow
  · subst hg
    simp [hc.fresh _ (Nat.le_refl _)]
  · simp [hg, Ne.symm hg]

/-- Flows that end leave the invariant as it is. -/
theorem Coherent.of_fewer {c d : Coordinator} (h : Coherent c) (next : d.nextFlow = c.nextFlow)
    (fewer : ∀ g r, d.role? g = some r → c.role? g = some r)
    (le : c.state.passId ≤ d.state.passId)
    (carried : d.state.started = true ↔ ∃ f, d.role? f = some (.pass d.state.passId)) :
    Coherent d where
  fresh g hg := by
    cases hr : d.role? g with
    | none => rfl
    | some r =>
      have hc := fewer g r hr
      rw [h.fresh g (next ▸ hg)] at hc
      cases hc
  bounded f p hr := Nat.le_trans (h.bounded f p (hr.imp (fewer _ _) (fewer _ _))) le
  unique f g p hf hg := h.unique f g p (fewer _ _ hf) (fewer _ _ hg)
  carried := carried

/-- A flow that begins leaves the invariant as it is, if it is for no pass that others carry out. -/
theorem Coherent.of_entered {c d : Coordinator} {role : Role} (h : Coherent c)
    (roles : Entered c d role) (le : c.state.passId ≤ d.state.passId)
    (bounded : ∀ p, role = .pass p ∨ role = .trigger p → p ≤ d.state.passId)
    (unique : ∀ g p, role = .pass p → c.role? g ≠ some (.pass p))
    (carried : d.state.started = true ↔ ∃ f, d.role? f = some (.pass d.state.passId)) :
    Coherent d where
  fresh g hg := by
    have hne : g ≠ c.nextFlow := by have := roles.1; omega
    rw [roles.role? h, if_neg hne]
    exact h.fresh g (by have := roles.1; omega)
  bounded f p hr := by
    rw [roles.role? h] at hr
    split at hr
    · exact bounded p (by simpa using hr)
    · exact Nat.le_trans (h.bounded f p hr) le
  unique f g p hf hg := by
    rw [roles.role? h] at hf hg
    split at hf <;> split at hg
    · next hfn hgn => rw [hfn, hgn]
    · exact absurd hg (unique g p (by simpa using hf))
    · exact absurd hf (unique f p (by simpa using hg))
    · exact h.unique f g p hf hg
  carried := carried

theorem SameRoles.fewer {c d : Coordinator} (h : SameRoles c d) (g : Nat) (r : Role)
    (hr : d.role? g = some r) : c.role? g = some r := by
  rwa [h.2 g] at hr

theorem Left.fewer {c d : Coordinator} {f : Nat} (h : Left c d f) (g : Nat) (r : Role)
    (hr : d.role? g = some r) : c.role? g = some r := by
  rw [h.2 g] at hr
  split at hr
  · cases hr
  · exact hr

/-- The next pass has no flow yet. -/
theorem Coherent.role?_ne_next {c : Coordinator} (h : Coherent c) (f : Nat) :
    c.role? f ≠ some (.pass (c.state.passId + 1)) := by
  intro hf
  have hle := h.bounded f _ (.inl hf)
  omega

/-- A reset leaves no pass in flight. -/
theorem Coherent.of_reset {c d : Coordinator} (h : Coherent c) (next : d.nextFlow = c.nextFlow)
    (fewer : ∀ g r, d.role? g = some r → c.role? g = some r)
    (state : d.state = .idle (c.state.passId + 1)) : Coherent d := by
  have hpassId : d.state.passId = c.state.passId + 1 := by
    rw [state]
    rfl
  refine h.of_fewer next fewer (by omega) (iff_of_false ?_ ?_)
  · rw [state]
    exact Bool.false_ne_true
  · rintro ⟨f, hf⟩
    rw [hpassId] at hf
    exact h.role?_ne_next f (fewer _ _ hf)

/-- The end of a flow that carries out a pass ends the flight of that pass, and of no other. -/
theorem Coherent.of_concluded {c d : Coordinator} {f p : Nat} (h : Coherent c)
    (role : c.role? f = some (.pass p)) (passId : d.state.passId = c.state.passId)
    (started : d.state.started = (c.state.started && c.state.passId ≠ p)) (roles : Left c d f) :
    Coherent d := by
  refine h.of_fewer roles.1 roles.fewer (Nat.le_of_eq passId.symm) ?_
  rw [passId, started, Bool.and_eq_true, h.carried, decide_eq_true_iff]
  constructor
  · rintro ⟨⟨g, hg⟩, hp⟩
    have hgf : g ≠ f := by
      rintro rfl
      rw [role] at hg
      injection hg with hg
      injection hg with hg
      exact hp hg.symm
    exact ⟨g, by rw [roles.2, if_neg hgf]; exact hg⟩
  · rintro ⟨g, hg⟩
    refine ⟨⟨g, roles.fewer _ _ hg⟩, fun hp => ?_⟩
    have hgf : g = f := h.unique g f p (hp ▸ roles.fewer _ _ hg) role
    rw [roles.2, if_pos hgf] at hg
    cases hg

theorem Coherent.react {c : Coordinator} (h : Coherent c) (m : Moment) :
    Coherent (c.react m).coordinator := by
  cases change_react c m with
  | stays same roles =>
    refine h.of_fewer roles.1 roles.fewer (Nat.le_of_eq same.1.symm) ?_
    simp only [roles.2, same.1, same.2]
    exact h.carried
  | enters role kind same roles =>
    have hpass : ∀ p, role ≠ .pass p := by rcases kind with rfl | ⟨a, rfl⟩ <;> simp
    refine h.of_entered roles (Nat.le_of_eq same.1.symm) ?_ (fun g p hr => absurd hr (hpass p)) ?_
    · rintro p (hr | hr)
      · exact absurd hr (hpass p)
      · rcases kind with rfl | ⟨a, rfl⟩
        · rw [same.1]; injection hr with hr; omega
        · cases hr
    · rw [same.1, same.2, h.carried]
      refine exists_congr fun f => ?_
      rw [roles.role? h]
      split
      · next hf => simp [hf, h.fresh _ (Nat.le_refl _), hpass]
      · rfl
  | leaves f kind same roles =>
    refine h.of_fewer roles.1 roles.fewer (Nat.le_of_eq same.1.symm) ?_
    rw [same.1, same.2, h.carried]
    refine exists_congr fun g => ?_
    rw [roles.2]
    split
    · next hg => subst hg; simp [kind]
    · rfl
  | begins idle event state roles =>
    refine h.of_entered roles ?_ ?_ ?_ ?_
    · rw [state]
      exact Nat.le_succ _
    · rw [state]
      rintro p (hr | hr)
      · injection hr with hr
        exact Nat.le_of_eq hr.symm
      · cases hr
    · intro g p hr hg
      injection hr with hr
      exact h.role?_ne_next g (hr ▸ hg)
    · rw [state]
      refine iff_of_true rfl ⟨c.nextFlow, ?_⟩
      rw [roles.role? h, if_pos rfl]
      rfl
  | abandons started event state roles =>
    exact h.of_reset roles.1 roles.fewer state
  | removes f a role event started state roles => exact h.of_reset roles.1 roles.fewer state
  | concludes f p last role passId started roles => exact h.of_concluded role passId started roles

theorem Coherent.run {c : Coordinator} (h : Coherent c) (ms : List Moment) :
    Coherent (c.run ms) := by
  induction ms generalizing c with
  | nil => exact h
  | cons m ms ih => exact ih (h.react m)

/-- Every run from the start keeps the invariant. -/
theorem coherent_run (ms : List Moment) : Coherent (({} : Coordinator).run ms) :=
  coherent_empty.run ms

/-! ## Flows in the course of a run -/

theorem nextFlow_le_react (c : Coordinator) (m : Moment) :
    c.nextFlow ≤ (c.react m).coordinator.nextFlow := by
  cases change_react c m with
  | stays same roles => exact Nat.le_of_eq roles.1.symm
  | enters role kind same roles => have := roles.1; omega
  | leaves f kind same roles => exact Nat.le_of_eq roles.1.symm
  | begins idle event state roles => have := roles.1; omega
  | abandons started event state roles => exact Nat.le_of_eq roles.1.symm
  | removes f a role event started state roles => exact Nat.le_of_eq roles.1.symm
  | concludes f p last role passId started roles => exact Nat.le_of_eq roles.1.symm

theorem role?_react {c : Coordinator} (h : Coherent c) (m : Moment) {f : Nat}
    (hf : f < c.nextFlow) :
    (c.react m).coordinator.role? f = c.role? f ∨ (c.react m).coordinator.role? f = none := by
  have hne : f ≠ c.nextFlow := Nat.ne_of_lt hf
  have left : ∀ g, Left c (c.react m).coordinator g →
      (c.react m).coordinator.role? f = c.role? f ∨ (c.react m).coordinator.role? f = none := by
    intro g hg
    rw [hg.2]
    split
    · exact .inr rfl
    · exact .inl rfl
  cases change_react c m with
  | stays same roles => exact .inl (roles.2 f)
  | enters role kind same roles => exact .inl (by rw [roles.role? h, if_neg hne])
  | leaves g kind same roles => exact left g roles
  | begins idle event state roles => exact .inl (by rw [roles.role? h, if_neg hne])
  | abandons started event state roles => exact .inl (roles.2 f)
  | removes g a role event started state roles => exact left g roles
  | concludes g p last role passId started roles => exact left g roles

/-- A flow keeps its purpose until it ends, and its number is not used again. -/
theorem role?_run {c : Coordinator} (h : Coherent c) (ms : List Moment) {f : Nat}
    (hf : f < c.nextFlow) : (c.run ms).role? f = c.role? f ∨ (c.run ms).role? f = none := by
  induction ms generalizing c with
  | nil => exact .inl rfl
  | cons m ms ih =>
    rcases ih (h.react m) (Nat.lt_of_lt_of_le hf (nextFlow_le_react c m)) with hr | hr
    · rw [run_cons, hr]
      exact role?_react h m hf
    · exact .inr hr

theorem lt_nextFlow {c : Coordinator} (h : Coherent c) {f : Nat} {r : Role}
    (hf : c.role? f = some r) : f < c.nextFlow := by
  by_cases hlt : f < c.nextFlow
  · exact hlt
  · rw [h.fresh f (Nat.le_of_not_lt hlt)] at hf
    cases hf

/-- A pass that has begun is carried out by the flow that carries it out now, or by none. -/
theorem pass_of_run {c : Coordinator} (h : Coherent c) (ms : List Moment) {f p : Nat}
    (hf : (c.run ms).role? f = some (.pass p)) (hp : p ≤ c.state.passId) :
    c.role? f = some (.pass p) := by
  induction ms generalizing c with
  | nil => exact hf
  | cons m ms ih =>
    have hreact := ih (h.react m) hf (by rw [passId_react]; omega)
    cases change_react c m with
    | stays same roles => rwa [roles.2] at hreact
    | enters role kind same roles =>
      rw [roles.role? h] at hreact
      split at hreact
      · rcases kind with rfl | ⟨a, rfl⟩ <;> cases hreact
      · exact hreact
    | leaves g kind same roles => exact roles.fewer _ _ hreact
    | begins idle event state roles =>
      rw [roles.role? h] at hreact
      split at hreact
      · injection hreact with hreact
        injection hreact with hreact
        omega
      · exact hreact
    | abandons started event state roles => rwa [roles.2] at hreact
    | removes g a role event started state roles => exact roles.fewer _ _ hreact
    | concludes g q last role passId started roles => exact roles.fewer _ _ hreact

end SessionSync.Coordinator
