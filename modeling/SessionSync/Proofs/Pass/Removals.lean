import SessionSync.Proofs.Pass.FlowTurns
import SessionSync.Proofs.Supervision.Delivery

/-!
# Removals under way

A removal has the agent told that it begins, waits for the account list of the session, and then has
the agent told that it ends. Nothing gives it up in between: neither the end of a pass nor a reset
concerns it.

* `Told` lists everything that the agent can be told at a moment; `told_react` says that the list is
  complete.
* `removing` — the accounts whose removal is under way.
* `balances_react`, `balances_run` — a removal that begins is under way until it ends, and none ends
  that was not under way.
* `AtRest.run` — with neither a pass nor a removal under way the agent is told nothing until one is
  asked for.
-/

namespace SessionSync

/-- The account whose removal ends. -/
def Instruction.removed? : Instruction → Option AccountId
  | .finishRemoval a _ => some a
  | _ => none

/-- The account that is removed. -/
def Role.removal? : Role → Option AccountId
  | .removal a => some a
  | _ => none

namespace Coordinator

/-! ## What the agent can be told -/

/-- Everything that the agent can be told at a moment. -/
inductive Told (c : Coordinator) (m : Moment) : List Instruction → Prop
  /-- Nothing. -/
  | nothing : Told c m []
  /-- To carry out what a pass has planned. -/
  | plans (state : PassState) : Told c m (planned state m.surroundings.primary)
  /-- That a removal begins. -/
  | begins (a : AccountId) (event : m.event = .removeAccount a) : Told c m [.startRemoval a]
  /-- That a removal ends. -/
  | ends (f : Nat) (a : AccountId) (answer : Except CallError String)
      (flow : c.flow? f = some (.removal a)) (event : m.event = .listed f answer) :
      Told c m [.finishRemoval a (accountsOfAnswer answer)]

section

variable {c : Coordinator} {m : Moment}

theorem told_proceed (d : Coordinator) (f p : Nat) (listDue : Bool) (checks : Checks) :
    Told c m (d.proceed m.surroundings f p listDue checks).instructions := by
  unfold proceed finish
  split
  · dsimp only
    split
    · dsimp only
      split
      · exact .plans _
      · exact .nothing
    · exact .nothing
  · exact .nothing

theorem told_resolve (d : Coordinator) (f : Nat) (a : AccountId) (v : Validity) :
    Told c m (d.resolve m.surroundings f a v).instructions := by
  unfold resolve
  split
  · unfold continueWith
    split
    · exact told_proceed _ f _ _ _
    · exact .nothing
    · exact .nothing
  · exact .nothing

theorem told_listed {f : Nat} {answer : Except CallError String}
    (event : m.event = .listed f answer) :
    Told c m (c.listed m.surroundings f answer).instructions := by
  cases hf : c.flow? f with
  | none =>
    simp only [listed, hf]
    exact .nothing
  | some fl =>
    cases fl with
    | pass p listDue checks =>
      cases listDue with
      | true =>
        rw [listed_of_pass hf]
        exact told_proceed _ f p false checks
      | false =>
        simp only [listed, hf]
        exact .nothing
    | reading p =>
      rw [listed_of_reading hf]
      exact .nothing
    | removal a =>
      rw [listed_of_removal hf]
      exact .ends f a answer hf event
    | queued | checking =>
      simp only [listed, hf]
      exact .nothing

end

/-- The agent is told nothing that is not listed in `Told`. -/
theorem told_react (c : Coordinator) (m : Moment) : Told c m (c.react m).instructions := by
  obtain ⟨s, event⟩ := m
  cases event with
  | start | abort | readSession => exact .nothing
  | removeAccount a => exact .begins a rfl
  | launch f =>
    show Told c _ (c.launch s f).instructions
    unfold launch
    split <;> exact .nothing
  | checkAccounts =>
    show Told c _ (c.checkAccounts s).instructions
    unfold checkAccounts
    split <;> exact .nothing
  | listed f answer => exact told_listed (m := ⟨s, .listed f answer⟩) rfl
  | minted f a answer =>
    show Told c _ (c.minted s f a answer).instructions
    unfold minted
    split
    · cases answer with
      | ok token => exact .nothing
      | error e => exact told_resolve (m := ⟨s, .minted f a (.error e)⟩) c f a .invalid
    · exact .nothing
  | identified f a answer =>
    show Told c _ (c.identified s f a answer).instructions
    unfold identified
    split
    · cases answer with
      | ok owner => exact told_resolve (m := ⟨s, .identified f a (.ok owner)⟩) c f a .valid
      | error e => exact told_resolve (m := ⟨s, .identified f a (.error e)⟩) c f a .invalid
    · exact .nothing

/-- While nobody is signed in, nothing is carried out: a pass that comes to its end has no primary
to plan for. -/
theorem perform_notMem_of_signed_out {c : Coordinator} {m : Moment}
    (signedOut : m.surroundings.primary = none) (action : Action) :
    .perform action ∉ (c.react m).instructions := by
  have told := told_react c m
  generalize (c.react m).instructions = instructions at told
  cases told with
  | nothing => exact List.not_mem_nil
  | plans state =>
    rw [signedOut]
    exact List.not_mem_nil
  | begins a => simp
  | ends f a answer => simp

/-- With no pass in flight nothing is carried out: a pass that still comes to its end has been given
up. -/
theorem perform_notMem_of_idle {c : Coordinator} (idle : c.state.started = false) (m : Moment)
    (action : Action) : .perform action ∉ (c.react m).instructions := by
  intro h
  obtain ⟨f, -, hcurrent⟩ := current_of_perform h
  rw [hcurrent.1] at idle
  cases idle

theorem mem_planned {state : PassState} {primary : Option AccountId} {x : Instruction}
    (h : x ∈ planned state primary) : ∃ action, x = .perform action := by
  unfold planned at h
  split at h
  · cases h
  · split at h
    · obtain ⟨action, -, rfl⟩ := List.mem_map.1 h
      exact ⟨action, rfl⟩
    · cases h

/-! ## Removals that are under way -/

/-- The accounts whose removal waits for the account list of the session, in the order in which the
removals began. -/
def removing (c : Coordinator) : List AccountId :=
  (List.range c.nextFlow).filterMap fun f => (c.role? f).bind Role.removal?

theorem mem_removing {c : Coordinator} (h : Coherent c) {a : AccountId} :
    a ∈ c.removing ↔ ∃ f, c.role? f = some (.removal a) := by
  have hremoval : ∀ role : Role, role.removal? = some a ↔ role = .removal a := by
    rintro (p | p | b) <;> simp [Role.removal?]
  simp only [removing, List.mem_filterMap, List.mem_range, Option.bind_eq_some_iff, hremoval,
    exists_eq_right]
  exact ⟨fun ⟨f, _, hf⟩ => ⟨f, hf⟩, fun ⟨f, hf⟩ => ⟨f, lt_nextFlow h hf, hf⟩⟩

section

variable {c d : Coordinator}

/-- Flows that remove nothing may come and go. -/
theorem removing_of_same (h : Coherent c) (le : c.nextFlow ≤ d.nextFlow)
    (same : ∀ g, (d.role? g).bind Role.removal? = (c.role? g).bind Role.removal?) :
    d.removing = c.removing := by
  obtain ⟨more, hmore⟩ := Nat.exists_eq_add_of_le le
  have hlater : ((List.range more).map (c.nextFlow + ·)).filterMap
      (fun f => (c.role? f).bind Role.removal?) = [] := by
    rw [List.filterMap_map, List.filterMap_eq_nil_iff]
    intro g _
    rw [Function.comp_apply, h.fresh _ (Nat.le_add_right _ _)]
    rfl
  unfold removing
  rw [hmore, List.range_add, List.filterMap_append]
  simp only [same, hlater, List.append_nil]

theorem SameRoles.removing (roles : SameRoles c d) : d.removing = c.removing := by
  unfold Coordinator.removing
  simp only [roles.1, roles.2]

theorem sameRoles_abort (c : Coordinator) : SameRoles c c.abort := by
  unfold abort
  split
  · exact .refl c
  · exact .refl c

theorem Entered.removing {role : Role} (h : Coherent c) (roles : Entered c d role) :
    d.removing = c.removing ++ role.removal?.toList := by
  unfold Coordinator.removing
  rw [roles.1, List.range_succ, List.filterMap_append]
  congr 1
  · refine List.filterMap_congr fun g hg => ?_
    rw [roles.role? h, if_neg (Nat.ne_of_lt (List.mem_range.1 hg))]
  · simp only [List.filterMap_cons, List.filterMap_nil, roles.role? h, if_true, Option.bind_some]
    cases role.removal? <;> rfl

/-- A removal that ends was under way, and the others are as they were. -/
theorem Left.removing {f : Nat} {a : AccountId} (h : Coherent c) (roles : Left c d f)
    (role : c.role? f = some (.removal a)) : (a :: d.removing).Perm c.removing := by
  have hf : f ∈ List.range c.nextFlow := List.mem_range.2 (lt_nextFlow h role)
  have herase := List.perm_cons_erase hf
  have hbefore := herase.filterMap fun g => (c.role? g).bind Role.removal?
  have hafter := herase.filterMap fun g => (d.role? g).bind Role.removal?
  rw [List.filterMap_cons_some (b := a) (by simp [role, Role.removal?])] at hbefore
  rw [List.filterMap_cons_none (by simp [roles.2 f])] at hafter
  have hothers : ((List.range c.nextFlow).erase f).filterMap
      (fun g => (d.role? g).bind Role.removal?) =
      ((List.range c.nextFlow).erase f).filterMap fun g => (c.role? g).bind Role.removal? := by
    refine List.filterMap_congr fun g hg => ?_
    have hne : g ≠ f := ((List.nodup_range).mem_erase_iff.1 hg).1
    rw [roles.2, if_neg hne]
  rw [hothers] at hafter
  unfold Coordinator.removing
  rw [roles.1]
  exact (hafter.cons a).trans hbefore.symm

end

/-! ## Every moment -/

/-- What is there at first, with what comes, is what goes, with what is left; so it is also of two
stretches of time of which one follows the other. -/
theorem balance_trans {α : Type} {first between last came came' went went' : List α}
    (h : (went ++ between).Perm (first ++ came)) (k : (went' ++ last).Perm (between ++ came')) :
    (went ++ went' ++ last).Perm (first ++ (came ++ came')) :=
  calc (went ++ went' ++ last).Perm (went ++ (went' ++ last)) :=
        .of_eq (List.append_assoc ..)
    List.Perm _ (went ++ (between ++ came')) := k.append_left went
    List.Perm _ (went ++ between ++ came') := .of_eq (List.append_assoc ..).symm
    List.Perm _ (first ++ came ++ came') := h.append_right came'
    List.Perm _ (first ++ (came ++ came')) := .of_eq (List.append_assoc ..)

/-- The books on removals that are under way balance: those that were, with those that begin, are
those that end, with those that still are. -/
def Balances (c : Coordinator) (r : Reaction) : Prop :=
  (r.instructions.filterMap (·.removed?) ++ r.coordinator.removing).Perm
    (c.removing ++ r.instructions.filterMap (·.removal?))

section

variable {c : Coordinator} {r : Reaction}

theorem balances_of_apart (ended : r.instructions.filterMap (·.removed?) = [])
    (begun : r.instructions.filterMap (·.removal?) = [])
    (same : r.coordinator.removing = c.removing) : c.Balances r := by
  unfold Balances
  rw [ended, begun, same, List.append_nil]
  exact List.Perm.refl _

/-- A flow begins, and the agent is told so if it is a removal. -/
theorem balances_of_entered (h : Coherent c) {role : Role} (roles : Entered c r.coordinator role)
    (ended : r.instructions.filterMap (·.removed?) = [])
    (begun : r.instructions.filterMap (·.removal?) = role.removal?.toList) : c.Balances r := by
  unfold Balances
  rw [ended, begun, roles.removing h]
  exact List.Perm.refl _

/-- What comes for a flow that removes nothing neither begins nor ends a removal. -/
theorem balances_of_other {m : Moment} {f : Nat} {fl : Flow} (h : Coherent c)
    (target : m.event.target? = some f) (flow : c.flow? f = some fl)
    (other : fl.role.removal? = none) : c.Balances (c.react m) := by
  have hrole : c.role? f = some fl.role := by rw [role?, flow]; rfl
  have hsame : ∀ g, ((c.react m).coordinator.role? g).bind Role.removal? =
      (c.role? g).bind Role.removal? := by
    intro g
    by_cases hg : g = f
    · subst hg
      rcases role?_react h m (lt_nextFlow h hrole) with hr | hr
      · rw [hr]
      · rw [hr, hrole]
        exact other.symm
    · rw [role?, flow?_react_of_ne target hg, role?]
  have hremoving := removing_of_same h (nextFlow_le_react c m) hsame
  have told := told_react c m
  generalize hinstructions : (c.react m).instructions = instructions at told
  cases told with
  | nothing => exact balances_of_apart (by simp [hinstructions]) (by simp [hinstructions]) hremoving
  | plans state =>
    have hended : (planned state m.surroundings.primary).filterMap (·.removed?) = [] := by
      rw [List.filterMap_eq_nil_iff]
      intro x hx
      obtain ⟨action, rfl⟩ := mem_planned hx
      rfl
    exact balances_of_apart (by rw [hinstructions, hended])
      (by rw [hinstructions, filterMap_removal?_planned]) hremoving
  | begins a event => simp [event, CoordinatorEvent.target?] at target
  | ends g a answer removal event =>
    obtain rfl : g = f := by simpa [event, CoordinatorEvent.target?] using target
    rw [flow] at removal
    cases removal
    cases other

/-- What comes for a removal ends it if it is the account list of the session. -/
theorem balances_of_removal {m : Moment} {f : Nat} {a : AccountId} (h : Coherent c)
    (target : m.event.target? = some f) (flow : c.flow? f = some (.removal a)) :
    c.Balances (c.react m) := by
  have hrole : c.role? f = some (.removal a) := by rw [role?, flow]; rfl
  obtain ⟨s, event⟩ := m
  cases event with
  | listed g answer =>
    obtain rfl : g = f := by simpa [CoordinatorEvent.target?] using target
    have hleft : Left c (c.react ⟨s, .listed g answer⟩).coordinator g := by
      show Left c (c.listed s g answer).coordinator g
      rw [listed_of_removal flow]
      cases accountsOfAnswer answer with
      | error e => exact left_leave c g
      | ok accounts => exact (sameRoles_abort c).left g
    have hinstructions : (c.react ⟨s, .listed g answer⟩).instructions =
        [.finishRemoval a (accountsOfAnswer answer)] := by
      show (c.listed s g answer).instructions = _
      rw [listed_of_removal flow]
    unfold Balances
    rw [hinstructions]
    simpa [Instruction.removed?, Instruction.removal?] using hleft.removing h hrole
  | launch g | minted g b answer | identified g b answer =>
    obtain rfl : g = f := by simpa [CoordinatorEvent.target?] using target
    simp only [react, step, launch, minted, identified, check?, flow, Option.bind_some,
      Flow.checks?]
    exact balances_of_apart rfl rfl rfl
  | start | abort | readSession | checkAccounts | removeAccount =>
    simp [CoordinatorEvent.target?] at target

end

/-- A removal that begins is under way until it ends, and none ends that was not under way. -/
theorem balances_react {c : Coordinator} (h : Coherent c) (m : Moment) :
    c.Balances (c.react m) := by
  cases target : m.event.target? with
  | some f =>
    cases hf : c.flow? f with
    | none =>
      rw [react_of_gone target (by rw [role?, hf]; rfl)]
      exact balances_of_apart rfl rfl rfl
    | some fl =>
      cases fl with
      | removal a => exact balances_of_removal h target hf
      | queued | pass | reading | checking => exact balances_of_other h target hf rfl
  | none =>
    obtain ⟨s, event⟩ := m
    cases event with
    | start =>
      show c.Balances { coordinator := c.start.1 }
      unfold start
      split
      · exact balances_of_apart rfl rfl rfl
      · exact balances_of_entered h
          (entered_enter { c with state := .begin (c.state.passId + 1) } _) rfl rfl
    | abort => exact balances_of_apart rfl rfl (sameRoles_abort c).removing
    | readSession => exact balances_of_entered h (entered_enter c (.reading _)) rfl rfl
    | checkAccounts =>
      show c.Balances (c.checkAccounts s)
      unfold checkAccounts
      split
      · exact balances_of_apart rfl rfl (sameRoles_closeChecks c _ _).removing
      · exact balances_of_entered h (entered_enter c (.checking _ _)) rfl rfl
    | removeAccount a => exact balances_of_entered h (entered_enter c (.removal a)) rfl rfl
    | launch | listed | minted | identified => simp [CoordinatorEvent.target?] at target

/-! ## Runs -/

/-- What the agent is told in a run. -/
def toldIn (c : Coordinator) : List Moment → List Instruction
  | [] => []
  | m :: ms => (c.react m).instructions ++ (c.react m).coordinator.toldIn ms

theorem toldIn_append (c : Coordinator) (ms ns : List Moment) :
    c.toldIn (ms ++ ns) = c.toldIn ms ++ (c.run ms).toldIn ns := by
  induction ms generalizing c with
  | nil => rfl
  | cons m ms ih => simp [toldIn, ih]

theorem perform_notMem_toldIn {c : Coordinator} {ms : List Moment}
    (signedOut : ∀ m ∈ ms, m.surroundings.primary = none) (action : Action) :
    .perform action ∉ c.toldIn ms := by
  induction ms generalizing c with
  | nil => exact List.not_mem_nil
  | cons m ms ih =>
    rw [toldIn, List.mem_append, not_or]
    exact ⟨perform_notMem_of_signed_out (signedOut m List.mem_cons_self) action,
      ih fun m' hm' => signedOut m' (List.mem_cons_of_mem m hm')⟩

/-- In a run, too, a removal that begins is under way until it ends, and none ends that was not
under way. -/
theorem balances_run {c : Coordinator} (h : Coherent c) (ms : List Moment) :
    ((c.toldIn ms).filterMap (·.removed?) ++ (c.run ms).removing).Perm
      (c.removing ++ (c.toldIn ms).filterMap (·.removal?)) := by
  induction ms generalizing c with
  | nil => simp [toldIn]
  | cons m ms ih =>
    simp only [toldIn, run_cons, List.filterMap_append]
    exact balance_trans (balances_react h m) (ih (h.react m))

/-! ## Nothing under way -/

/-- Neither a pass nor a removal is under way. -/
structure AtRest (c : Coordinator) : Prop where
  idle : c.state.started = false
  none : c.removing = []

theorem started_react_of_idle {c : Coordinator} (idle : c.state.started = false) {m : Moment}
    (event : m.event ≠ .start) : (c.react m).coordinator.state.started = false := by
  cases change_react c m with
  | stays same => exact same.2.trans idle
  | enters role kind same => exact same.2.trans idle
  | leaves f kind same => exact same.2.trans idle
  | begins idle' event' => exact absurd event' event
  | abandons started => exact absurd (started.symm.trans idle) nofun
  | removes f a role event' started => exact absurd (started.symm.trans idle) nofun
  | concludes f p last role passId started => rw [started, idle, Bool.false_and]

/-- A coordinator at rest stays so until a pass is started or a removal is asked for, and has the
agent told nothing. -/
theorem AtRest.react {c : Coordinator} (h : Coherent c) (atRest : c.AtRest) {m : Moment}
    (start : m.event ≠ .start) (removal : ∀ a, m.event ≠ .removeAccount a) :
    (c.react m).instructions = [] ∧ (c.react m).coordinator.AtRest := by
  have hidle := perform_notMem_of_idle atRest.idle m
  have hnil : (c.react m).instructions = [] := by
    have told := told_react c m
    generalize (c.react m).instructions = instructions at told hidle
    cases told with
    | nothing => rfl
    | plans state =>
      refine List.eq_nil_iff_forall_not_mem.2 fun x hx => ?_
      obtain ⟨action, rfl⟩ := mem_planned hx
      exact hidle action hx
    | begins a event => exact absurd event (removal a)
    | ends f a answer flow =>
      have hmem : a ∈ c.removing := (mem_removing h).2 ⟨f, by rw [role?, flow]; rfl⟩
      rw [atRest.none] at hmem
      cases hmem
  refine ⟨hnil, started_react_of_idle atRest.idle start, ?_⟩
  have hbalances := balances_react h m
  unfold Balances at hbalances
  simpa [hnil, atRest.none] using hbalances

theorem AtRest.run {c : Coordinator} (h : Coherent c) (atRest : c.AtRest) {ms : List Moment}
    (quiet : ∀ m ∈ ms, m.event ≠ .start ∧ ∀ a, m.event ≠ .removeAccount a) :
    c.toldIn ms = [] ∧ (c.run ms).AtRest := by
  induction ms generalizing c with
  | nil => exact ⟨rfl, atRest⟩
  | cons m ms ih =>
    obtain ⟨start, removal⟩ := quiet m List.mem_cons_self
    obtain ⟨hnil, hrest⟩ := atRest.react h start removal
    obtain ⟨hlater, hrun⟩ := ih (h.react m) hrest fun m' hm' =>
      quiet m' (List.mem_cons_of_mem m hm')
    exact ⟨by rw [toldIn, hnil, hlater]; rfl, hrun⟩

end Coordinator

end SessionSync
