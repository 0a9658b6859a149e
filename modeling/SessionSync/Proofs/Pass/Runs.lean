import SessionSync.Pass.Coordinator

/-!
# Runs of the coordinator

A run is a list of moments: at each the coordinator sees its surroundings and something happens.
This file says once what one moment can do to the flows and to the state of the current pass, so
that no later proof unfolds a step again.

* `Flow.role` forgets how far a flow is and keeps what it is for.
* `Change` lists everything that a moment can do to the roles, to the number of the current pass
  and to what the agent is told; `change_react` says that the list is complete.
-/

namespace SessionSync

/-! ## Moments -/

/-- What the coordinator sees at a moment, and what happens then. -/
structure Moment where
  /-- What is seen. -/
  surroundings : Surroundings
  /-- What happens. -/
  event : CoordinatorEvent

/-- The flow that an event is for: the one that gets its turn or its answer. -/
def CoordinatorEvent.target? : CoordinatorEvent → Option Nat
  | .launch f => some f
  | .listed f _ => some f
  | .minted f _ _ => some f
  | .identified f _ _ => some f
  | _ => none

/-- What a flow is for. -/
inductive Role
  /-- It carries out a pass. -/
  | pass (passId : Nat)
  /-- It reads the session or checks accounts outside a pass, for the pass that was current. -/
  | trigger (passId : Nat)
  /-- It removes an account from the session. -/
  | removal (account : AccountId)
  deriving DecidableEq

/-- What a flow is for, however far it is. -/
def Flow.role : Flow → Role
  | .queued passId => .pass passId
  | .pass passId _ _ => .pass passId
  | .reading passId => .trigger passId
  | .checking passId _ => .trigger passId
  | .removal a => .removal a

namespace Coordinator

/-- What a moment leads to. -/
def react (c : Coordinator) (m : Moment) : Reaction :=
  c.step m.surroundings m.event

/-- The coordinator after a run. -/
def run (c : Coordinator) (ms : List Moment) : Coordinator :=
  ms.foldl (fun c m => (c.react m).coordinator) c

@[simp] theorem run_nil (c : Coordinator) : c.run [] = c := rfl

@[simp] theorem run_cons (c : Coordinator) (m : Moment) (ms : List Moment) :
    c.run (m :: ms) = (c.react m).coordinator.run ms := rfl

theorem run_append (c : Coordinator) (ms ns : List Moment) :
    c.run (ms ++ ns) = (c.run ms).run ns :=
  List.foldl_append

/-- What the flow under a number is for. -/
def role? (c : Coordinator) (f : Nat) : Option Role :=
  (c.flow? f).map Flow.role

/-- The flow under a number carries out the pass in flight. -/
def Current (c : Coordinator) (f : Nat) : Prop :=
  c.state.started = true ∧ c.role? f = some (.pass c.state.passId)

/-! ## Looking flows up -/

theorem flow?_enter (c : Coordinator) (fl : Flow) (g : Nat) :
    (c.enter fl).flow? g = (c.flow? g).or (if c.nextFlow = g then some fl else none) := by
  unfold flow? enter
  rw [List.find?_append]
  cases c.flows.find? (·.1 = g) with
  | some e => rfl
  | none => by_cases h : c.nextFlow = g <;> simp [h]

theorem flow?_update (c : Coordinator) (f : Nat) (fl : Flow) (g : Nat) :
    (c.update f fl).flow? g = if g = f then (c.flow? f).map fun _ => fl else c.flow? g := by
  unfold flow? update
  induction c.flows with
  | nil => simp
  | cons e l ih => grind

theorem flow?_leave (c : Coordinator) (f g : Nat) :
    (c.leave f).flow? g = if g = f then none else c.flow? g := by
  unfold flow? leave
  induction c.flows with
  | nil => simp
  | cons e l ih => grind

@[simp] theorem flow?_learn (c : Coordinator) (p : Nat) (change : PassState → PassState) (g : Nat) :
    (c.learn p change).flow? g = c.flow? g := by
  unfold learn; split <;> rfl

@[simp] theorem nextFlow_learn (c : Coordinator) (p : Nat) (change : PassState → PassState) :
    (c.learn p change).nextFlow = c.nextFlow := by
  unfold learn; split <;> rfl

theorem state_learn (c : Coordinator) (p : Nat) (change : PassState → PassState) :
    (c.learn p change).state = if c.state.passId = p then change c.state else c.state := by
  unfold learn; split <;> rfl

/-! ## What a moment can do -/

/-- The same pass is current in both, and in flight in both or in neither. -/
def SamePass (c d : Coordinator) : Prop :=
  d.state.passId = c.state.passId ∧ d.state.started = c.state.started

/-- The same flows are under way in both, for the same purposes. -/
def SameRoles (c d : Coordinator) : Prop :=
  d.nextFlow = c.nextFlow ∧ ∀ g, d.role? g = c.role? g

/-- A flow with a number of its own has been added. -/
def Entered (c d : Coordinator) (role : Role) : Prop :=
  d.nextFlow = c.nextFlow + 1 ∧
    ∀ g, d.role? g = (c.role? g).or (if c.nextFlow = g then some role else none)

/-- A flow has come to its end. -/
def Left (c d : Coordinator) (f : Nat) : Prop :=
  d.nextFlow = c.nextFlow ∧ ∀ g, d.role? g = if g = f then none else c.role? g

/-- The event brings the pass of a flow the last answer that it waits for: the account list when
every check has ended, or the end of the last check when the account list has arrived. -/
def LastAnswer (c : Coordinator) (f p : Nat) : CoordinatorEvent → Prop
  | .listed g _ => g = f ∧ c.flow? f = some (.pass p true [])
  | .minted g a (.error _) =>
    g = f ∧ c.check? f a = some .minting ∧
      ∃ checks, c.flow? f = some (.pass p false checks) ∧ ∀ k ∈ checks, k.1 = a
  | .identified g a _ =>
    g = f ∧ (∃ token, c.check? f a = some (.identifying token)) ∧
      ∃ checks, c.flow? f = some (.pass p false checks) ∧ ∀ k ∈ checks, k.1 = a
  | _ => False

/-- Everything that a moment can do. -/
inductive Change (c : Coordinator) (m : Moment) (r : Reaction) : Prop
  /-- Flows go on; something may have been learned. -/
  | stays (same : SamePass c r.coordinator) (roles : SameRoles c r.coordinator)
      (quiet : ∀ a, Instruction.perform a ∉ r.instructions)
  /-- A flow that is no pass begins. -/
  | enters (role : Role) (kind : role = .trigger c.state.passId ∨ ∃ a, role = .removal a)
      (same : SamePass c r.coordinator) (roles : Entered c r.coordinator role)
      (quiet : ∀ a, Instruction.perform a ∉ r.instructions)
  /-- A flow that is no pass ends. -/
  | leaves (f : Nat) (kind : ∀ p, c.role? f ≠ some (.pass p))
      (same : SamePass c r.coordinator) (roles : Left c r.coordinator f)
      (quiet : ∀ a, Instruction.perform a ∉ r.instructions)
  /-- A pass begins. -/
  | begins (idle : c.state.started = false) (event : m.event = .start)
      (state : r.coordinator.state = .begin (c.state.passId + 1))
      (roles : Entered c r.coordinator (.pass (c.state.passId + 1)))
      (quiet : r.instructions = [])
  /-- The pass in flight is given up. -/
  | abandons (started : c.state.started = true) (event : m.event = .abort)
      (state : r.coordinator.state = .idle (c.state.passId + 1))
      (roles : SameRoles c r.coordinator) (quiet : r.instructions = [])
  /-- A removal has read the session and gives up the pass in flight. -/
  | removes (f : Nat) (account : AccountId) (role : c.role? f = some (.removal account))
      (event : ∃ answer accounts,
        m.event = .listed f answer ∧ accountsOfAnswer answer = .ok accounts)
      (started : c.state.started = true)
      (state : r.coordinator.state = .idle (c.state.passId + 1))
      (roles : Left c r.coordinator f) (quiet : ∀ a, Instruction.perform a ∉ r.instructions)
  /-- A pass ends. -/
  | concludes (f p : Nat) (last : c.LastAnswer f p m.event) (role : c.role? f = some (.pass p))
      (passId : r.coordinator.state.passId = c.state.passId)
      (started : r.coordinator.state.started = (c.state.started && c.state.passId ≠ p))
      (roles : Left c r.coordinator f)

theorem SamePass.refl (c : Coordinator) : SamePass c c := ⟨rfl, rfl⟩

theorem SamePass.trans {c d e : Coordinator} (h : SamePass c d) (k : SamePass d e) : SamePass c e :=
  ⟨k.1.trans h.1, k.2.trans h.2⟩

theorem SameRoles.refl (c : Coordinator) : SameRoles c c := ⟨rfl, fun _ => rfl⟩

theorem SameRoles.trans {c d e : Coordinator} (h : SameRoles c d) (k : SameRoles d e) :
    SameRoles c e :=
  ⟨k.1.trans h.1, fun g => (k.2 g).trans (h.2 g)⟩

/-! ### What is learned -/

theorem samePass_learn (c : Coordinator) (p : Nat) {change : PassState → PassState}
    (h : ∀ st, (change st).passId = st.passId ∧ (change st).started = st.started) :
    SamePass c (c.learn p change) := by
  unfold SamePass
  rw [state_learn]
  split
  · exact h c.state
  · exact ⟨rfl, rfl⟩

theorem sameRoles_learn (c : Coordinator) (p : Nat) (change : PassState → PassState) :
    SameRoles c (c.learn p change) :=
  ⟨by simp, fun g => by simp [role?]⟩

theorem samePass_closeChecks (c : Coordinator) (p : Nat) (checks : Checks) :
    SamePass c (c.closeChecks p checks) := by
  unfold closeChecks
  split
  · exact samePass_learn c p fun _ => ⟨rfl, rfl⟩
  · exact .refl c

theorem sameRoles_closeChecks (c : Coordinator) (p : Nat) (checks : Checks) :
    SameRoles c (c.closeChecks p checks) := by
  unfold closeChecks
  split
  · exact sameRoles_learn c p _
  · exact .refl c

@[simp] theorem flow?_closeChecks (c : Coordinator) (p : Nat) (checks : Checks) (g : Nat) :
    (c.closeChecks p checks).flow? g = c.flow? g := by
  unfold closeChecks; split <;> simp

theorem samePass_recordCheck (c : Coordinator) (s : Surroundings) (p : Nat) (a : AccountId)
    (v : Validity) : SamePass c (c.recordCheck s p a v) := by
  unfold recordCheck
  split
  · exact samePass_learn c p fun _ => by cases v <;> exact ⟨rfl, rfl⟩
  · exact .refl c

theorem sameRoles_recordCheck (c : Coordinator) (s : Surroundings) (p : Nat) (a : AccountId)
    (v : Validity) : SameRoles c (c.recordCheck s p a v) := by
  unfold recordCheck
  split
  · exact sameRoles_learn c p _
  · exact .refl c

@[simp] theorem flow?_recordCheck (c : Coordinator) (s : Surroundings) (p : Nat) (a : AccountId)
    (v : Validity) (g : Nat) : (c.recordCheck s p a v).flow? g = c.flow? g := by
  unfold recordCheck; split <;> simp

/-- The coordinator when the answer about the session has been taken in for a pass. -/
def learnAnswer (c : Coordinator) (p : Nat) (answer : Except CallError String) : Coordinator :=
  match accountsOfAnswer answer with
  | .ok accounts => c.learn p fun st => st.setSession accounts
  | .error _ => c

theorem samePass_learnAnswer (c : Coordinator) (p : Nat) (answer : Except CallError String) :
    SamePass c (c.learnAnswer p answer) := by
  unfold learnAnswer
  split
  · exact samePass_learn c p fun _ => ⟨rfl, rfl⟩
  · exact .refl c

theorem sameRoles_learnAnswer (c : Coordinator) (p : Nat) (answer : Except CallError String) :
    SameRoles c (c.learnAnswer p answer) := by
  unfold learnAnswer
  split
  · exact sameRoles_learn c p _
  · exact .refl c

theorem listed_of_pass {c : Coordinator} {f p : Nat} {checks : Checks}
    (h : c.flow? f = some (.pass p true checks)) (s : Surroundings)
    (answer : Except CallError String) :
    c.listed s f answer = (c.learnAnswer p answer).proceed s f p false checks := by
  cases hsession : accountsOfAnswer answer with
  | error e => simp only [listed, learnAnswer, h, hsession]
  | ok accounts => simp only [listed, learnAnswer, h, hsession]

theorem listed_of_reading {c : Coordinator} {f p : Nat} (h : c.flow? f = some (.reading p))
    (s : Surroundings) (answer : Except CallError String) :
    c.listed s f answer = { coordinator := (c.learnAnswer p answer).leave f } := by
  cases hsession : accountsOfAnswer answer with
  | error e => simp only [listed, learnAnswer, h, hsession]
  | ok accounts => simp only [listed, learnAnswer, h, hsession]

/-! ### What becomes of flows -/

theorem sameRoles_update {c : Coordinator} {f : Nat} {fl : Flow} (h : c.role? f = some fl.role) :
    SameRoles c (c.update f fl) := by
  refine ⟨rfl, fun g => ?_⟩
  unfold role? at h ⊢
  rw [flow?_update]
  split
  · next hg =>
    subst hg
    rw [h, Option.map_map, ← h]
    cases hg : c.flow? g with
    | none => rw [hg] at h; cases h
    | some fl' => rw [hg] at h; simpa using h.symm
  · rfl

theorem state_identify (c : Coordinator) (f : Nat) (a : AccountId) (token : String) :
    (c.identify f a token).state = c.state := by
  unfold identify
  dsimp only
  split <;> rfl

theorem sameRoles_identify (c : Coordinator) (f : Nat) (a : AccountId) (token : String) :
    SameRoles c (c.identify f a token) := by
  unfold identify
  dsimp only
  split
  · next hf => exact sameRoles_update (by simp [role?, hf, Flow.role])
  · next hf => exact sameRoles_update (by simp [role?, hf, Flow.role])
  · exact .refl c

theorem entered_enter (c : Coordinator) (fl : Flow) : Entered c (c.enter fl) fl.role := by
  refine ⟨rfl, fun g => ?_⟩
  unfold role?
  rw [flow?_enter]
  cases c.flow? g with
  | some fl' => rfl
  | none => by_cases h : c.nextFlow = g <;> simp [h]

theorem left_leave (c : Coordinator) (f : Nat) : Left c (c.leave f) f := by
  refine ⟨rfl, fun g => ?_⟩
  unfold role?
  rw [flow?_leave]
  split <;> rfl

theorem SameRoles.left {c d : Coordinator} (h : SameRoles c d) (f : Nat) : Left c (d.leave f) f :=
  ⟨h.1, fun g => by rw [(left_leave d f).2 g, h.2 g]⟩

/-! ### The other flows -/

section

variable {c : Coordinator} {f g : Nat}

theorem flow?_update_of_ne (h : g ≠ f) (fl : Flow) : (c.update f fl).flow? g = c.flow? g := by
  rw [flow?_update, if_neg h]

theorem flow?_leave_of_ne (h : g ≠ f) : (c.leave f).flow? g = c.flow? g := by
  rw [flow?_leave, if_neg h]

@[simp] theorem flow?_learnAnswer (c : Coordinator) (p : Nat) (answer : Except CallError String)
    (g : Nat) : (c.learnAnswer p answer).flow? g = c.flow? g := by
  unfold learnAnswer; split <;> simp

@[simp] theorem flow?_abort (c : Coordinator) (g : Nat) : c.abort.flow? g = c.flow? g := by
  unfold abort; split <;> rfl

theorem flow?_proceed_of_ne (h : g ≠ f) (s : Surroundings) (p : Nat) (listDue : Bool)
    (checks : Checks) : (c.proceed s f p listDue checks).coordinator.flow? g = c.flow? g := by
  unfold proceed finish
  split
  · dsimp only
    split
    · exact flow?_leave_of_ne h
    · exact flow?_leave_of_ne h
  · exact flow?_update_of_ne h _

theorem flow?_resolve_of_ne (h : g ≠ f) (s : Surroundings) (a : AccountId) (v : Validity) :
    (c.resolve s f a v).coordinator.flow? g = c.flow? g := by
  unfold resolve
  split
  · unfold continueWith
    split
    · rw [flow?_proceed_of_ne h]
      simp
    · dsimp only
      split
      · rw [flow?_leave_of_ne h]
        simp
      · rw [flow?_update_of_ne h]
        simp
    · simp
  · rfl

theorem flow?_identify_of_ne (h : g ≠ f) (a : AccountId) (token : String) :
    (c.identify f a token).flow? g = c.flow? g := by
  unfold identify
  dsimp only
  split
  · exact flow?_update_of_ne h _
  · exact flow?_update_of_ne h _
  · rfl

theorem flow?_launch_of_ne (h : g ≠ f) (s : Surroundings) :
    (c.launch s f).coordinator.flow? g = c.flow? g := by
  unfold launch
  split
  · rw [flow?_closeChecks, flow?_update_of_ne h]
  · rfl

theorem flow?_listed_of_ne (h : g ≠ f) (s : Surroundings) (answer : Except CallError String) :
    (c.listed s f answer).coordinator.flow? g = c.flow? g := by
  cases hf : c.flow? f with
  | none => simp [listed, hf]
  | some fl =>
    cases fl with
    | pass p listDue checks =>
      cases listDue with
      | true => rw [listed_of_pass hf, flow?_proceed_of_ne h, flow?_learnAnswer]
      | false => simp [listed, hf]
    | reading p => rw [listed_of_reading hf, flow?_leave_of_ne h, flow?_learnAnswer]
    | removal a =>
      simp only [listed, hf]
      rw [flow?_leave_of_ne h]
      split <;> simp
    | queued | checking => simp [listed, hf]

/-- What comes for a flow leaves the other flows as they are. -/
theorem flow?_react_of_ne {m : Moment} (target : m.event.target? = some f) (h : g ≠ f) :
    (c.react m).coordinator.flow? g = c.flow? g := by
  obtain ⟨s, event⟩ := m
  cases event with
  | launch f' =>
    obtain rfl : f' = f := by simpa [CoordinatorEvent.target?] using target
    exact flow?_launch_of_ne h s
  | listed f' answer =>
    obtain rfl : f' = f := by simpa [CoordinatorEvent.target?] using target
    exact flow?_listed_of_ne h s answer
  | minted f' a answer =>
    obtain rfl : f' = f := by simpa [CoordinatorEvent.target?] using target
    simp only [react, step, minted]
    split
    · cases answer with
      | ok token => exact flow?_identify_of_ne h a token
      | error e => exact flow?_resolve_of_ne h s a .invalid
    · rfl
  | identified f' a answer =>
    obtain rfl : f' = f := by simpa [CoordinatorEvent.target?] using target
    simp only [react, step, identified]
    split
    · cases answer with
      | ok owner => exact flow?_resolve_of_ne h s a .valid
      | error e => exact flow?_resolve_of_ne h s a .invalid
    · rfl
  | start | abort | readSession | checkAccounts | removeAccount =>
    simp [CoordinatorEvent.target?] at target

/-- What comes for a flow that has ended has no effect at all. -/
theorem react_of_gone {m : Moment} (target : m.event.target? = some f) (gone : c.role? f = none) :
    c.react m = { coordinator := c } := by
  obtain ⟨s, event⟩ := m
  have hf : c.flow? f = none := Option.map_eq_none_iff.1 gone
  cases event with
  | launch g | listed g answer | minted g a answer | identified g a answer =>
    obtain rfl : g = f := by simpa [CoordinatorEvent.target?] using target
    simp [react, step, launch, listed, minted, identified, check?, hf]
  | start | abort | readSession | checkAccounts | removeAccount =>
    simp [CoordinatorEvent.target?] at target

end

/-! ### Every moment -/

section

variable {c : Coordinator} {m : Moment}

theorem change_refl {r : Reaction} (hc : r.coordinator = c) (hi : r.instructions = []) :
    Change c m r :=
  .stays (hc ▸ .refl c) (hc ▸ .refl c) (by simp [hi])

/-- A pass that has just got an answer goes on or ends. -/
theorem change_proceed {d : Coordinator} {s : Surroundings} {f p : Nat} {listDue : Bool}
    {checks : Checks} (same : SamePass c d) (roles : SameRoles c d)
    (role : c.role? f = some (.pass p))
    (last : (!listDue && checks.isEmpty) = true → c.LastAnswer f p m.event) :
    Change c m (d.proceed s f p listDue checks) := by
  unfold proceed
  split
  · next hdone =>
    have hleft : Left c (d.leave f) f := roles.left f
    have hpassId : (d.leave f).state.passId = c.state.passId := same.1
    have hstarted : (d.leave f).state.started = c.state.started := same.2
    unfold finish
    dsimp only
    split
    · next hcur =>
      refine .concludes f p (last hdone) role hpassId ?_ hleft
      simp [← hpassId, hcur.1]
    · next hcur =>
      refine .concludes f p (last hdone) role hpassId ?_ hleft
      show (d.leave f).state.started = _
      rw [hstarted]
      cases hs : c.state.started with
      | false => rfl
      | true =>
        have hne : c.state.passId ≠ p := fun h =>
          hcur ⟨hpassId.trans h, hstarted.trans hs⟩
        simp [hne]
  · next hdue =>
    have hrole : d.role? f = some (Flow.pass p listDue checks).role := (roles.2 f).trans role
    exact .stays same (roles.trans (sameRoles_update hrole)) (by simp)

/-- A checking whose checks have changed goes on or ends. -/
theorem change_checking {d : Coordinator} {f p : Nat} {checks : Checks}
    (role : c.role? f = some (.trigger p)) (same : SamePass c d) (roles : SameRoles c d) :
    Change c m
      { coordinator := if checks.isEmpty then d.leave f else d.update f (.checking p checks) } := by
  split
  · exact .leaves f (by simp [role]) same (roles.left f) (by simp)
  · have hrole : d.role? f = some (Flow.checking p checks).role := (roles.2 f).trans role
    exact .stays same (roles.trans (sameRoles_update hrole)) (by simp)

/-- A flow whose check of an account has just ended goes on or ends. -/
theorem change_resolve {s : Surroundings} {f : Nat} {a : AccountId} {v : Validity}
    (last : ∀ p checks, c.flow? f = some (.pass p false checks) →
      (∀ k ∈ checks, k.1 = a) → c.LastAnswer f p m.event) :
    Change c m (c.resolve s f a v) := by
  unfold resolve
  split
  · next p checks hchecks =>
    have same := samePass_recordCheck c s p a v
    have roles := sameRoles_recordCheck c s p a v
    unfold continueWith
    rw [flow?_recordCheck]
    cases hf : c.flow? f with
    | none => simp [hf] at hchecks
    | some fl =>
      cases fl with
      | pass p' listDue checks' =>
        obtain ⟨rfl, rfl⟩ : p' = p ∧ checks' = checks := by simpa [hf, Flow.checks?] using hchecks
        refine change_proceed (same.trans (samePass_closeChecks _ _ _))
          (roles.trans (sameRoles_closeChecks _ _ _)) (by simp [role?, hf, Flow.role]) ?_
        intro hdone
        obtain ⟨rfl, hempty⟩ : listDue = false ∧ (checks'.filter (·.1 ≠ a)).isEmpty = true := by
          simpa using hdone
        exact last p' checks' hf (by simpa using hempty)
      | checking p' checks' =>
        have hrole : c.role? f = some (.trigger p') := by simp [role?, hf, Flow.role]
        exact change_checking hrole (same.trans (samePass_closeChecks _ _ _))
          (roles.trans (sameRoles_closeChecks _ _ _))
      | queued p' => simp [hf, Flow.checks?] at hchecks
      | reading p' => simp [hf, Flow.checks?] at hchecks
      | removal a' => simp [hf, Flow.checks?] at hchecks
  · exact change_refl rfl rfl

theorem change_launch (s : Surroundings) (f : Nat) : Change c m (c.launch s f) := by
  unfold launch
  split
  · next p hf =>
    have hrole : c.role? f = some (Flow.pass p true (checksOf s)).role := by
      simp [role?, hf, Flow.role]
    exact .stays (.trans (.refl c) (samePass_closeChecks _ _ _))
      ((sameRoles_update hrole).trans (sameRoles_closeChecks _ _ _)) (by simp)
  · exact change_refl rfl rfl

theorem change_checkAccounts (s : Surroundings) : Change c m (c.checkAccounts s) := by
  unfold checkAccounts
  split
  · exact .stays (samePass_closeChecks c _ _) (sameRoles_closeChecks c _ _) (by simp)
  · exact .enters _ (.inl rfl) (.refl c) (entered_enter c (.checking _ _)) (by simp)

theorem change_minted (s : Surroundings) (f : Nat) (a : AccountId)
    (answer : Except TokenError String) (event : m.event = .minted f a answer) :
    Change c m (c.minted s f a answer) := by
  unfold minted
  split
  · next hcheck =>
    cases answer with
    | ok token =>
      have hstate := state_identify c f a token
      exact .stays ⟨by rw [hstate], by rw [hstate]⟩ (sameRoles_identify c f a token) (by simp)
    | error e =>
      refine change_resolve fun p checks hf hall => ?_
      rw [event]
      exact ⟨rfl, hcheck, checks, hf, hall⟩
  · exact change_refl rfl rfl

theorem change_identified (s : Surroundings) (f : Nat) (a : AccountId)
    (answer : Except CallError TokenOwner) (event : m.event = .identified f a answer) :
    Change c m (c.identified s f a answer) := by
  unfold identified
  split
  · next token hcheck =>
    have hlast : ∀ p checks, c.flow? f = some (.pass p false checks) →
        (∀ k ∈ checks, k.1 = a) → c.LastAnswer f p m.event := by
      intro p checks hf hall
      rw [event]
      exact ⟨rfl, ⟨token, hcheck⟩, checks, hf, hall⟩
    cases answer <;> exact change_resolve hlast
  · exact change_refl rfl rfl

theorem change_listed (s : Surroundings) (f : Nat) (answer : Except CallError String)
    (event : m.event = .listed f answer) : Change c m (c.listed s f answer) := by
  cases hf : c.flow? f with
  | none => exact change_refl (by simp [listed, hf]) (by simp [listed, hf])
  | some fl =>
    cases fl with
    | pass p listDue checks =>
      cases listDue with
      | true =>
        rw [listed_of_pass hf]
        refine change_proceed (samePass_learnAnswer c p answer) (sameRoles_learnAnswer c p answer)
          (by simp [role?, hf, Flow.role]) fun hdone => ?_
        have hempty : checks = [] := by simpa using hdone
        rw [event]
        exact ⟨rfl, hempty ▸ hf⟩
      | false => exact change_refl (by simp [listed, hf]) (by simp [listed, hf])
    | reading p =>
      rw [listed_of_reading hf]
      exact .leaves f (by simp [role?, hf, Flow.role]) (samePass_learnAnswer c p answer)
        ((sameRoles_learnAnswer c p answer).left f) (by simp)
    | removal a =>
      have hrole : c.role? f = some (.removal a) := by simp [role?, hf, Flow.role]
      simp only [listed, hf]
      cases hsession : accountsOfAnswer answer with
      | error e => exact .leaves f (by simp [hrole]) (.refl c) (left_leave c f) (by simp)
      | ok accounts =>
        by_cases hs : c.state.started = true
        · have habort : c.abort = { c with state := .idle (c.state.passId + 1) } := if_pos hs
          refine .removes f a hrole ⟨answer, accounts, event, hsession⟩ hs ?_ ?_ (by simp)
          · show (c.abort.leave f).state = _
            rw [habort]
            rfl
          · show Left c (c.abort.leave f) f
            rw [habort]
            exact left_leave c f
        · have habort : c.abort = c := if_neg hs
          refine .leaves f (by simp [hrole]) ?_ ?_ (by simp)
          · show SamePass c (c.abort.leave f)
            rw [habort]
            exact .refl c
          · show Left c (c.abort.leave f) f
            rw [habort]
            exact left_leave c f
    | queued | checking => exact change_refl (by simp [listed, hf]) (by simp [listed, hf])

end

/-- A moment does nothing that is not listed in `Change`. -/
theorem change_react (c : Coordinator) (m : Moment) : Change c m (c.react m) := by
  obtain ⟨s, event⟩ := m
  unfold react
  cases event with
  | start =>
    show Change c _ { coordinator := c.start.1 }
    unfold start
    split
    · exact change_refl rfl rfl
    · next hs =>
      exact .begins (by simpa using hs) rfl rfl
        (entered_enter { c with state := .begin (c.state.passId + 1) } _) rfl
  | abort =>
    show Change c _ { coordinator := c.abort }
    unfold abort
    split
    · next hs => exact .abandons hs rfl rfl (.refl _) rfl
    · exact change_refl rfl rfl
  | launch f => exact change_launch s f
  | readSession =>
    exact .enters _ (.inl rfl) (.refl c) (entered_enter c (.reading _))
      (by simp [step, readSession])
  | checkAccounts => exact change_checkAccounts s
  | removeAccount a =>
    exact .enters _ (.inr ⟨a, rfl⟩) (.refl c) (entered_enter c (.removal a))
      (by simp [step, removeAccount])
  | listed f answer => exact change_listed s f answer rfl
  | minted f a answer => exact change_minted s f a answer rfl
  | identified f a answer => exact change_identified s f a answer rfl

end Coordinator

end SessionSync
