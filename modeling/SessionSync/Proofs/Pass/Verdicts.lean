import SessionSync.Proofs.Pass.Planning
import SessionSync.Proofs.Pass.Validation

/-!
# Which accounts count as valid

The state of a pass keeps the accounts whose credentials work apart from those whose do not. Several
flows may write to it, and credentials come and go meanwhile.

* `lastResults` — the last result that was recorded for each account since the last reset, told from
  the checks that have come to their end.
* `unjudged_react`, `judged_record` — what one moment does to what is known about credentials.
* `judged_run` — in every run the two sets hold exactly the last results.
* `checked_react` — when the checks of a pass count as done.
* `exact_classification` — all of this for every run, with what it means for a plan.
-/

namespace SessionSync.Coordinator

/-! ## Last results -/

/-- The number of the pass for which a flow checks accounts. -/
def checkedPass? (c : Coordinator) (f : Nat) : Option Nat :=
  ((c.flow? f).bind Flow.checks?).map (·.1)

/-- The result that is recorded at a moment: the account still holds credentials, and the result is
for the current pass. -/
def recorded? (c : Coordinator) (m : Moment) : Option Result :=
  (c.result? m).filter fun r =>
    m.surroundings.held.contains r.account && c.checkedPass? r.flow == some c.state.passId

/-- The last results after a moment. -/
def note (c : Coordinator) (m : Moment) (last : AccountId → Option Validity) :
    AccountId → Option Validity :=
  if c.resets m.event then fun _ => none
  else
    match c.recorded? m with
    | some r => fun a => if a = r.account then some r.validity else last a
    | none => last

/-- The last results after a run. -/
def lastResults (c : Coordinator) (last : AccountId → Option Validity) :
    List Moment → AccountId → Option Validity
  | [] => last
  | m :: ms => lastResults (c.react m).coordinator (c.note m last) ms

/-- The two sets of a state hold the last results. -/
structure Judged (st : PassState) (last : AccountId → Option Validity) : Prop where
  valid : ∀ a, st.valid.contains a = true ↔ last a = some .valid
  invalid : ∀ a, st.invalid.contains a = true ↔ last a = some .invalid

theorem judged_empty {st : PassState} (valid : st.valid = Catalog.empty)
    (invalid : st.invalid = Catalog.empty) : Judged st fun _ => none where
  valid a := by simp [valid, Catalog.contains_empty]
  invalid a := by simp [invalid, Catalog.contains_empty]

theorem Judged.of_same {st st' : PassState} {last : AccountId → Option Validity}
    (h : Judged st last) (valid : st'.valid = st.valid) (invalid : st'.invalid = st.invalid) :
    Judged st' last where
  valid a := by rw [valid]; exact h.valid a
  invalid a := by rw [invalid]; exact h.invalid a

/-- Recording a result replaces the one before. -/
theorem Judged.record {st : PassState} {last : AccountId → Option Validity} (h : Judged st last)
    (a : AccountId) (v : Validity) :
    Judged (st.record a v) fun b => if b = a then some v else last b := by
  cases v with
  | valid =>
    refine ⟨fun b => ?_, fun b => ?_⟩
    · by_cases hb : b = a <;> simp [PassState.record, AccountSet.contains_add, h.valid, hb]
    · by_cases hb : b = a <;> simp [PassState.record, Catalog.contains_erase, h.invalid, hb]
  | invalid =>
    refine ⟨fun b => ?_, fun b => ?_⟩
    · by_cases hb : b = a <;> simp [PassState.record, Catalog.contains_erase, h.valid, hb]
    · by_cases hb : b = a <;> simp [PassState.record, AccountSet.contains_add, h.invalid, hb]

/-! ## What is known after one moment -/

section

variable {c : Coordinator} {m : Moment} {f p : Nat} {a : AccountId}

/-- At this moment checks begin, and there is no account to check. -/
def NothingToCheck (c : Coordinator) (m : Moment) : Prop :=
  m.surroundings.held = [] ∧ (m.event = .checkAccounts ∨ ∃ f, c.BeginsChecks m f)

/-- Nothing new is known about credentials, but that there are none to check. -/
structure Unjudged (c : Coordinator) (m : Moment) (st : PassState) : Prop where
  valid : st.valid = c.state.valid
  invalid : st.invalid = c.state.invalid
  checked : st.tokensChecked = true → c.state.tokensChecked = true ∨ c.NothingToCheck m

/-- A pass that goes on, or ends, knows what it knew. -/
theorem state_proceed (c : Coordinator) (s : Surroundings) (f p : Nat) (listDue : Bool)
    (checks : Checks) :
    ∃ started, (c.proceed s f p listDue checks).coordinator.state
      = { c.state with started := started } := by
  unfold proceed
  split
  · exact ⟨_, state_finish c s f p⟩
  · exact ⟨c.state.started, rfl⟩

theorem unjudged_refl {st : PassState} (h : st = c.state) : Unjudged c m st := by
  subst h
  exact ⟨rfl, rfl, .inl⟩

theorem unjudged_closeChecks {d : Coordinator} (same : d.state = c.state) {checks : Checks}
    (none : checks.isEmpty = true → c.NothingToCheck m) :
    Unjudged c m (d.closeChecks p checks).state := by
  unfold closeChecks
  split
  · next hempty =>
    rw [state_learn, same]
    split
    · exact ⟨rfl, rfl, fun _ => .inr (none hempty)⟩
    · exact unjudged_refl rfl
  · exact unjudged_refl same

theorem unjudged_learnAnswer (answer : Except CallError String) :
    Unjudged c m (c.learnAnswer p answer).state := by
  unfold learnAnswer
  split
  · rw [state_learn]
    split
    · exact ⟨rfl, rfl, .inl⟩
    · exact unjudged_refl rfl
  · exact unjudged_refl rfl

theorem Unjudged.proceed {d : Coordinator} (h : Unjudged c m d.state) (s : Surroundings)
    (f p : Nat) (listDue : Bool) (checks : Checks) :
    Unjudged c m (d.proceed s f p listDue checks).coordinator.state := by
  obtain ⟨started, hstate⟩ := state_proceed d s f p listDue checks
  rw [hstate]
  exact ⟨h.valid, h.invalid, h.checked⟩

theorem checksOf_isEmpty (s : Surroundings) (h : (checksOf s).isEmpty = true) : s.held = [] := by
  simpa [checksOf] using h

/-- The check that a moment ends is resolved. -/
theorem react_of_result? {r : Result} (h : c.result? m = some r) :
    c.react m = c.resolve m.surroundings r.flow r.account r.validity := by
  obtain ⟨g, b, v⟩ := r
  obtain ⟨hsubject, k, hk, hv⟩ := result?_eq_some.1 h
  obtain ⟨s, event⟩ := m
  dsimp only at hsubject hk hv ⊢
  unfold Check.verdict? at hv
  split at hv
  all_goals
    cases hv
    all_goals
      cases hsubject
      simp only [react, step, minted, identified, hk]

/-- What a flow without a result gets tells nothing about credentials. -/
theorem unjudged_turn {fl : Flow} {after : Option Flow} (turn : Turn c m f fl after)
    (flow : c.flow? f = some fl) (sound : fl.Sound) (hresult : c.result? m = none)
    (hreset : c.resets m.event = false) : Unjudged c m (c.react m).coordinator.state := by
  cases turn with
  | @launches p reaction event =>
    rw [reaction]
    have hnothing : (checksOf m.surroundings).isEmpty = true → c.NothingToCheck m := fun hempty =>
      ⟨checksOf_isEmpty _ hempty, .inr ⟨f, .pass flow event⟩⟩
    have hsame : (c.update f (.pass p true (checksOf m.surroundings))).state = c.state := rfl
    exact unjudged_closeChecks hsame hnothing
  | lists answer reaction =>
    rw [reaction]
    exact (unjudged_learnAnswer answer).proceed _ _ _ _ _
  | reads answer reaction =>
    rw [reaction]
    exact unjudged_learnAnswer answer
  | removes answer reaction event =>
    rw [reaction]
    refine unjudged_refl ?_
    rw [event] at hreset
    cases hsession : accountsOfAnswer answer with
    | error e => rfl
    | ok accounts =>
      have hidle : c.state.started = false := by
        simpa [resets, role?, flow, Flow.role, hsession] using hreset
      simp [abort, hidle, leave]
  | advances token due reaction =>
    rw [reaction]
    exact unjudged_refl (state_identify c f _ token)
  | @resolves fl a k v due reaction subject verdict =>
    have hsome : c.result? m = some ⟨f, a, v⟩ :=
      result?_eq_some.2 ⟨subject, k, check?_of_mem flow sound due, verdict⟩
    rw [hsome] at hresult
    cases hresult
  | keeps reaction =>
    rw [reaction]
    exact unjudged_refl rfl

/-- A moment that neither ends a check nor resets the state tells nothing about credentials. -/
theorem unjudged_react (sound : c.Sound) (hresult : c.result? m = none)
    (hreset : c.resets m.event = false) : Unjudged c m (c.react m).coordinator.state := by
  cases target : m.event.target? with
  | some f =>
    cases hflow : c.flow? f with
    | none =>
      rw [react_of_gone target (by simp [role?, hflow])]
      exact unjudged_refl rfl
    | some fl =>
      obtain ⟨after, turn⟩ := exists_turn hflow (sound f fl hflow) target
      exact unjudged_turn turn hflow (sound f fl hflow) hresult hreset
  | none =>
    obtain ⟨s, event⟩ := m
    cases event with
    | start =>
      have hstarted : c.state.started = true := by simpa [resets] using hreset
      exact unjudged_refl (by simp [react, step, start, hstarted])
    | abort =>
      have hidle : c.state.started = false := hreset
      exact unjudged_refl (by simp [react, step, abort, hidle])
    | readSession | removeAccount => exact unjudged_refl rfl
    | checkAccounts =>
      show Unjudged c _ (c.checkAccounts s).coordinator.state
      unfold checkAccounts
      split
      · next hheld => exact unjudged_closeChecks rfl fun _ => ⟨by simpa using hheld, .inl rfl⟩
      · exact unjudged_refl rfl
    | launch | listed | minted | identified => simp [CoordinatorEvent.target?] at target

/-- A reset leaves nothing known. -/
theorem state_of_resets (h : c.resets m.event = true) :
    (c.react m).coordinator.state.valid = Catalog.empty
      ∧ (c.react m).coordinator.state.invalid = Catalog.empty
      ∧ (c.react m).coordinator.state.tokensChecked = false := by
  have hpassId := passId_of_resets h
  have hsame : (c.react m).coordinator.state.passId ≠ c.state.passId := by omega
  cases change_react c m with
  | stays same => exact absurd same.1 hsame
  | enters role kind same => exact absurd same.1 hsame
  | leaves f kind same => exact absurd same.1 hsame
  | begins idle event state => rw [state]; exact ⟨rfl, rfl, rfl⟩
  | abandons started event state => rw [state]; exact ⟨rfl, rfl, rfl⟩
  | removes f account role event started state => rw [state]; exact ⟨rfl, rfl, rfl⟩
  | concludes f p last role passId => exact absurd passId hsame

/-- No result comes with a reset. -/
theorem resets_of_result? {r : Result} (h : c.result? m = some r) : c.resets m.event = false := by
  have hsubject := (result?_eq_some.1 h).1
  cases hevent : m.event <;> simp_all [CoordinatorEvent.subject?, resets]

/-- What is known when a check has been resolved. -/
theorem state_resolve {checks : Checks} (hchecks : (c.flow? f).bind Flow.checks? = some (p, checks))
    (s : Surroundings) (a : AccountId) (v : Validity) :
    ∃ started, (c.resolve s f a v).coordinator.state
      = { ((c.recordCheck s p a v).closeChecks p (checks.filter (·.1 ≠ a))).state with
          started := started } := by
  obtain ⟨fl, hflow, hfl⟩ := Option.bind_eq_some_iff.1 hchecks
  cases fl with
  | pass p' listDue checks' =>
    obtain ⟨rfl, rfl⟩ : p' = p ∧ checks' = checks := by simpa [Flow.checks?] using hfl
    rw [resolve_of_pass hflow]
    exact state_proceed _ _ _ _ _ _
  | checking p' checks' =>
    obtain ⟨rfl, rfl⟩ : p' = p ∧ checks' = checks := by simpa [Flow.checks?] using hfl
    refine ⟨((c.recordCheck s p' a v).closeChecks p' (checks'.filter (·.1 ≠ a))).state.started, ?_⟩
    simp only [resolve, hflow, Option.bind_some, Flow.checks?, continueWith, flow?_recordCheck]
    split <;> rfl
  | queued | reading | removal => simp [Flow.checks?] at hfl

theorem checks?_of_check? {k : Check} (h : c.check? f a = some k) :
    ∃ p checks, (c.flow? f).bind Flow.checks? = some (p, checks) := by
  unfold check? at h
  split at h
  · next p checks hchecks => exact ⟨p, checks, hchecks⟩
  · cases h

theorem state_closeChecks (c : Coordinator) (p : Nat) (checks : Checks) :
    (c.closeChecks p checks).state.valid = c.state.valid
      ∧ (c.closeChecks p checks).state.invalid = c.state.invalid
      ∧ ((c.closeChecks p checks).state.tokensChecked = true →
          c.state.tokensChecked = true ∨ checks = []) := by
  unfold closeChecks
  split
  · next hempty =>
    rw [state_learn]
    split
    · exact ⟨rfl, rfl, fun _ => .inr (by simpa using hempty)⟩
    · exact ⟨rfl, rfl, .inl⟩
  · exact ⟨rfl, rfl, .inl⟩

/-- A result is recorded if the account still holds credentials and the pass is the current one. -/
theorem state_recordCheck (c : Coordinator) (s : Surroundings) (p : Nat) (a : AccountId)
    (v : Validity) :
    (c.recordCheck s p a v).state
      = if s.held.contains a && p == c.state.passId then c.state.record a v else c.state := by
  unfold recordCheck
  cases s.held.contains a with
  | false => rfl
  | true =>
    rw [if_pos rfl, state_learn]
    by_cases hp : c.state.passId = p
    · simp [hp]
    · simp [hp, Ne.symm hp]

/-- With the moment at which a check ends, what is known is what has been recorded. -/
theorem judged_record {last : AccountId → Option Validity} (h : Judged c.state last) {r : Result}
    (hresult : c.result? m = some r) :
    Judged (c.react m).coordinator.state (c.note m last) := by
  obtain ⟨-, k, hk, -⟩ := result?_eq_some.1 hresult
  obtain ⟨p, checks, hchecks⟩ := checks?_of_check? hk
  have hpass : c.checkedPass? r.flow = some p := by simp [checkedPass?, hchecks]
  have hreset := resets_of_result? hresult
  obtain ⟨started, hstate⟩ := state_resolve hchecks m.surroundings r.account r.validity
  obtain ⟨hvalid, hinvalid, -⟩ := state_closeChecks
    (c.recordCheck m.surroundings p r.account r.validity) p (checks.filter (·.1 ≠ r.account))
  rw [react_of_result? hresult, hstate]
  have hrecorded : c.recorded? m =
      if m.surroundings.held.contains r.account && p == c.state.passId then some r else none := by
    rw [recorded?, hresult, Option.filter_some, hpass]
    rfl
  have hjudged : Judged (c.recordCheck m.surroundings p r.account r.validity).state
      (c.note m last) := by
    unfold note
    rw [if_neg (by simp [hreset]), hrecorded, state_recordCheck]
    split
    · exact h.record r.account r.validity
    · exact h
  exact hjudged.of_same hvalid hinvalid

theorem Judged.react {last : AccountId → Option Validity} (h : Judged c.state last)
    (sound : c.Sound) (m : Moment) : Judged (c.react m).coordinator.state (c.note m last) := by
  by_cases hreset : c.resets m.event = true
  · obtain ⟨hvalid, hinvalid, -⟩ := state_of_resets hreset
    unfold note
    rw [if_pos hreset]
    exact judged_empty hvalid hinvalid
  · cases hresult : c.result? m with
    | some r => exact judged_record h hresult
    | none =>
      have hunjudged := unjudged_react sound hresult (by simpa using hreset)
      have hrecorded : c.recorded? m = none := by simp [recorded?, hresult]
      unfold note
      rw [if_neg hreset, hrecorded]
      exact h.of_same hunjudged.valid hunjudged.invalid

/-- The last check of a flow has come to its end with the moment at which the checks of a pass count
as done, if there was anything to check. -/
theorem checked_react (sound : c.Sound) (before : c.state.tokensChecked = false)
    (after : (c.react m).coordinator.state.tokensChecked = true) :
    c.NothingToCheck m ∨ ∃ r, c.result? m = some r
      ∧ ∀ a, (c.react m).coordinator.check? r.flow a = none := by
  have hreset : c.resets m.event = false := by
    rw [← Bool.not_eq_true]
    intro hreset
    rw [(state_of_resets hreset).2.2] at after
    cases after
  cases hresult : c.result? m with
  | none =>
    rcases (unjudged_react sound hresult hreset).checked after with hold | hnothing
    · rw [before] at hold
      cases hold
    · exact .inl hnothing
  | some r =>
    refine .inr ⟨r, rfl, fun a => ?_⟩
    obtain ⟨-, k, hk, -⟩ := result?_eq_some.1 hresult
    obtain ⟨p, checks, hchecks⟩ := checks?_of_check? hk
    obtain ⟨fl, hflow, hfl⟩ := Option.bind_eq_some_iff.1 hchecks
    have hdue : fl.checksDue = checks := Flow.checksDue_of_checks? hfl
    have hne : fl.checksDue ≠ [] := List.ne_nil_of_mem (mem_of_check? hflow hk)
    obtain ⟨started, hstate⟩ := state_resolve hchecks m.surroundings r.account r.validity
    rw [react_of_result? hresult] at after ⊢
    rw [hstate] at after
    have hempty : checks.filter (·.1 ≠ r.account) = [] := by
      rcases (state_closeChecks _ _ _).2.2 after with hold | hempty
      · have hrecorded := state_recordCheck c m.surroundings p r.account r.validity
        rw [hrecorded] at hold
        split at hold
        · cases hv : r.validity <;> simp [hv, PassState.record, before] at hold
        · rw [before] at hold
          cases hold
      · exact hempty
    rw [check?_of_left (flow?_resolve hflow hne _ _ _), Flow.checksDue_withChecks hne, hdue, hempty]
    rfl

/-- With nothing to check, the checks of the current pass count as done at once. -/
theorem checked_of_nothing (held : m.surroundings.held = [])
    (begins : m.event = .checkAccounts
      ∨ ∃ f, m.event = .launch f ∧ c.flow? f = some (.queued c.state.passId)) :
    (c.react m).coordinator.state.tokensChecked = true := by
  obtain ⟨s, event⟩ := m
  dsimp only at held begins
  rcases begins with rfl | ⟨f, rfl, hflow⟩
  · simp [react, step, checkAccounts, held, closeChecks, learn]
  · simp [react, step, launch, hflow, checksOf, held, closeChecks, learn, update]

/-! ## Plans -/

/-- An action that the agent is told to carry out is planned for what is known then. -/
theorem planned_of_perform {x : Action} (h : .perform x ∈ (c.react m).instructions) :
    ∃ primary actions, x ∈ actions
      ∧ plan primary (c.react m).coordinator.state.session (c.react m).coordinator.state.valid
          (c.react m).coordinator.state.invalid = .ok actions := by
  by_cases hlast : ∃ f p, c.LastAnswer f p m.event
  · obtain ⟨f, p, hlast⟩ := hlast
    rw [instructions_of_lastAnswer hlast] at h
    split at h
    · unfold planned at h
      split at h
      · cases h
      · next primary _ =>
        split at h
        · next actions hplan =>
          obtain ⟨y, hy, heq⟩ := List.mem_map.1 h
          cases heq
          exact ⟨primary, actions, hy, hplan⟩
        · cases h
    · cases h
  · exact absurd h (quiet_of_not_lastAnswer (fun f p hl => hlast ⟨f, p, hl⟩) x)

end

/-- Only accounts that are not known are adopted. -/
theorem unknown_of_adopt_mem {primary : AccountId} {session : List AccountId}
    {valid invalid : AccountSet} {actions : List Action}
    (h : plan primary session valid invalid = .ok actions) {a : AccountId} {place : Nat}
    (ha : .adopt a place ∈ actions) : ¬ Known valid invalid a := by
  rcases plan_cases h with ⟨-, -, rfl⟩ | ⟨-, rfl⟩
  · simp at ha
  · rcases List.mem_append.1 ha with ha | ha
    · simp at ha
    · exact (exists_adopt_mem_iff.1 ⟨place, ha⟩).2

/-! ## Runs -/

theorem Judged.run {c : Coordinator} {last : AccountId → Option Validity} (h : Judged c.state last)
    (sound : c.Sound) (ms : List Moment) : Judged (c.run ms).state (c.lastResults last ms) := by
  induction ms generalizing c last with
  | nil => exact h
  | cons m ms ih => exact ih (h.react sound m) (sound.react m)

/-- The last results of a run from the start. -/
def lastResult (ms : List Moment) (a : AccountId) : Option Validity :=
  ({} : Coordinator).lastResults (fun _ => none) ms a

/-- In every run the two sets hold exactly the last results. -/
theorem judged_run (ms : List Moment) : Judged (({} : Coordinator).run ms).state (lastResult ms) :=
  (judged_empty rfl rfl).run (sound_run []) ms

/-- What the checks of a snapshot come to in the course of a run, in any order. -/
structure Validates (f : Nat) (snapshot : List AccountId) (d : Coordinator) (later : List Moment) :
    Prop where
  /-- Every account of the snapshot is reported about once, with the verdict of its answers, unless
  it has lost its credentials when its check ends; and no other account is. -/
  reports : ∀ a, (d.reports f later).filter (·.1 = a) =
    if a ∈ snapshot then reportOf a (tokenVerdict f a later) else []
  /-- The checks are over when there is a verdict on every account of the snapshot. -/
  returned : (∀ a, (d.run later).check? f a = none)
    ↔ ∀ a ∈ snapshot, (tokenVerdict f a later).isSome = true

/-- When something was checked for it, the checks of a pass count as done with the verdict on the
last account of the snapshot of one flow. -/
theorem exists_validated (past : List Moment) {m : Moment} {r : Result}
    (hresult : (({} : Coordinator).run past).result? m = some r)
    (ended : ∀ a, ((({} : Coordinator).run past).react m).coordinator.check? r.flow a = none) :
    ∃ before b after, past = before ++ b :: after
      ∧ (({} : Coordinator).run before).BeginsChecks b r.flow
      ∧ ∀ a ∈ b.surroundings.held, (tokenVerdict r.flow a (after ++ [m])).isSome = true := by
  obtain ⟨-, k, hk, -⟩ := result?_eq_some.1 hresult
  have hdue : (({} : Coordinator).run past).check? r.flow r.account ≠ none := by simp [hk]
  obtain ⟨before, b, after, rfl, hbegins⟩ := exists_beginning past hdue
  refine ⟨before, b, after, rfl, hbegins, ?_⟩
  refine (returned_iff (coherent_run before) (sound_run before) hbegins (after ++ [m])).1 ?_
  rw [run_append] at ended
  rw [run_append]
  exact ended

/-- In every run no account counts as valid and as invalid: the two sets hold the last results that
have been recorded since the last reset. When a flow checks a snapshot, every account of it is
reported about exactly once, when its check ends, if it holds credentials then, and no other account
is; it is valid exactly if an access token was given and then its owner was. The checks of a pass
count as done at once if there is nothing to check, and otherwise with the verdict on the last
account of the snapshot of one flow. So only accounts whose last result is good are merged, and only
accounts without a result are adopted. -/
theorem exact_classification (past : List Moment) :
    let c := ({} : Coordinator).run past
    (∀ a, ¬ (c.state.valid.contains a = true ∧ c.state.invalid.contains a = true))
      ∧ (∀ a, (c.state.valid.contains a = true ↔ lastResult past a = some .valid)
          ∧ (c.state.invalid.contains a = true ↔ lastResult past a = some .invalid))
      ∧ (∀ m f, c.BeginsChecks m f → ∀ later,
          Validates f m.surroundings.held (c.react m).coordinator later)
      ∧ (∀ m, m.surroundings.held = [] →
          (m.event = .checkAccounts
            ∨ ∃ f, m.event = .launch f ∧ c.flow? f = some (.queued c.state.passId)) →
          (c.react m).coordinator.state.tokensChecked = true)
      ∧ ∀ m,
        let st := (c.react m).coordinator.state
        let told := (c.react m).instructions
        (c.state.tokensChecked = false → st.tokensChecked = true →
            c.NothingToCheck m
              ∨ ∃ f before b after, past = before ++ b :: after
                ∧ (({} : Coordinator).run before).BeginsChecks b f
                ∧ m.event.target? = some f
                ∧ ∀ a ∈ b.surroundings.held, (tokenVerdict f a (after ++ [m])).isSome = true)
          ∧ (∀ a, .perform (.merge a) ∈ told → lastResult (past ++ [m]) a = some .valid)
          ∧ ∀ a place, .perform (.adopt a place) ∈ told → lastResult (past ++ [m]) a = none := by
  intro c
  have hc : Coherent c := coherent_run past
  have hsound : c.Sound := sound_run past
  have hjudged := judged_run past
  refine ⟨?_, fun a => ⟨hjudged.valid a, hjudged.invalid a⟩, ?_,
    fun m held begins => checked_of_nothing held begins, ?_⟩
  · rintro a ⟨hvalid, hinvalid⟩
    have hlast := (hjudged.valid a).1 hvalid
    rw [(hjudged.invalid a).1 hinvalid] at hlast
    cases hlast
  · intro m f hbegins later
    exact ⟨filter_reports_of_begins hc hsound hbegins later, returned_iff hc hsound hbegins later⟩
  · intro m st told
    have hafter : Judged st (lastResult (past ++ [m])) := by
      have hrun := judged_run (past ++ [m])
      rw [run_append] at hrun
      exact hrun
    refine ⟨fun hbefore hchecked => ?_, fun a ha => ?_, fun a place ha => ?_⟩
    · rcases checked_react hsound hbefore hchecked with hnothing | ⟨r, hresult, hover⟩
      · exact .inl hnothing
      · obtain ⟨before, b, after, hpast, hbegins, hverdicts⟩ := exists_validated past hresult hover
        have htarget := CoordinatorEvent.target?_of_subject? (result?_eq_some.1 hresult).1
        exact .inr ⟨r.flow, before, b, after, hpast, hbegins, htarget, hverdicts⟩
    · obtain ⟨primary, actions, hmem, hplan⟩ := planned_of_perform ha
      exact (hafter.valid a).1 (valid_of_merge_mem hplan hmem)
    · obtain ⟨primary, actions, hmem, hplan⟩ := planned_of_perform ha
      have hunknown := unknown_of_adopt_mem hplan hmem
      unfold Known at hunknown
      rw [hafter.valid, hafter.invalid] at hunknown
      cases hlast : lastResult (past ++ [m]) a with
      | none => rfl
      | some v => cases v <;> simp [hlast] at hunknown

end SessionSync.Coordinator
