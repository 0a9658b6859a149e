import SessionSync.Proofs.Pass.FlowByFlow
import SessionSync.Proofs.Pass.StalePasses
import SessionSync.Proofs.Session.Listing

/-!
# Removals beside passes

A removal waits for its answer while passes begin, go on, end and are given up, and while other
removals do the same. It touches the state of the current pass only once, and only when it has read
the session.

* `actsOf_of_removal` — what a removal that waits still does: it ends with the first account list
  that comes for it.
* `perform_notMem_actsOf` — a flow that does not carry out the pass in flight never has an action
  carried out again.
* `removal_of_read`, `removal_of_unread` — the end of a removal, with the session or without.
* `removal_in_two_phases` — all of this for every run.
-/

namespace SessionSync.Coordinator

/-! ## What is done for a flow -/

section

variable {c : Coordinator} {f : Nat} {a : AccountId}

theorem role?_of_removal (flow : c.flow? f = some (.removal a)) :
    c.role? f = some (.removal a) := by
  rw [role?, flow]
  rfl

/-- A removal that begins waits under the next number. -/
theorem flow?_removeAccount (hc : Coherent c) (a : AccountId) :
    (c.removeAccount a).coordinator.flow? c.nextFlow = some (.removal a) := by
  have hfresh : c.flow? c.nextFlow = none :=
    Option.map_eq_none_iff.1 (hc.fresh c.nextFlow (Nat.le_refl _))
  show (c.enter (.removal a)).flow? c.nextFlow = _
  rw [flow?_enter, hfresh, if_pos rfl]
  rfl

/-- Nothing is done for a flow that has ended. -/
theorem actsOf_of_gone (hc : Coherent c) (used : f < c.nextFlow) (gone : c.role? f = none)
    (ms : List Moment) : c.actsOf f ms = [] := by
  induction ms generalizing c with
  | nil => rfl
  | cons m ms ih =>
    have hgone : (c.react m).coordinator.role? f = none :=
      (role?_react hc m used).elim (·.trans gone) id
    rw [actsOf_cons, ih (hc.react m) (Nat.lt_of_lt_of_le used (nextFlow_le_react c m)) hgone,
      List.append_nil]
    split
    · next hflow =>
      rw [react_of_gone ((flowOf_eq_iff used m).1 hflow) gone]
      rfl
    · rfl

/-- Whatever comes for a removal, it keeps waiting until the account list of the session comes. -/
theorem react_of_removal {m : Moment} (flow : c.flow? f = some (.removal a))
    (target : m.event.target? = some f) (unread : m.event.listAnswer? f = none) :
    c.react m = { coordinator := c } := by
  obtain ⟨after, turn⟩ := exists_turn flow ⟨nofun, .inr (.inl rfl)⟩ target
  cases turn with
  | removes answer reaction event => simp [event, CoordinatorEvent.listAnswer?] at unread
  | advances token due => cases due
  | resolves v due => cases due
  | keeps reaction => exact reaction

/-- A removal keeps waiting until the account list of the session comes for it. -/
theorem flow?_react_of_removal (flow : c.flow? f = some (.removal a)) {m : Moment}
    (unread : m.event.listAnswer? f = none) :
    (c.react m).coordinator.flow? f = some (.removal a) := by
  cases target : m.event.target? with
  | none =>
    obtain ⟨entered, -, hflow, -⟩ := entered_react c target
    rw [hflow, flow]
    rfl
  | some g =>
    by_cases hg : f = g
    · subst hg
      rw [react_of_removal flow target unread]
      exact flow
    · exact (flow?_react_of_ne target hg).trans flow

theorem flow?_run_of_removal (flow : c.flow? f = some (.removal a)) {ms : List Moment}
    (unread : ms.findSome? (·.event.listAnswer? f) = none) :
    (c.run ms).flow? f = some (.removal a) := by
  induction ms generalizing c with
  | nil => exact flow
  | cons m ms ih =>
    have hall := List.findSome?_eq_none_iff.1 unread
    refine ih (flow?_react_of_removal flow (hall m List.mem_cons_self)) ?_
    exact List.findSome?_eq_none_iff.2 fun m' hm' => hall m' (List.mem_cons_of_mem m hm')

/-- The account list of the session ends a removal, and the agent is told so. -/
theorem react_of_listAnswer (flow : c.flow? f = some (.removal a)) {m : Moment}
    {answer : Except CallError String} (read : m.event.listAnswer? f = some answer) :
    c.react m =
      { coordinator := (match accountsOfAnswer answer with
          | .ok _ => c.abort
          | .error _ => c).leave f
        instructions := [.finishRemoval a (accountsOfAnswer answer)] } := by
  obtain ⟨s, event⟩ := m
  obtain rfl := CoordinatorEvent.eq_of_listAnswer? read
  exact listed_of_removal flow s answer

/-- What a removal that waits still does: with the first account list of the session that comes for
it, the agent is told that it ends. -/
theorem actsOf_of_removal (hc : Coherent c) (flow : c.flow? f = some (.removal a))
    (ms : List Moment) :
    c.actsOf f ms =
      match ms.findSome? (·.event.listAnswer? f) with
      | none => []
      | some answer => [.tells (.finishRemoval a (accountsOfAnswer answer))] := by
  induction ms generalizing c with
  | nil => rfl
  | cons m ms ih =>
    have hused := lt_nextFlow hc (role?_of_removal flow)
    rw [actsOf_cons, List.findSome?_cons]
    cases hread : m.event.listAnswer? f with
    | none =>
      have hquiet : (if c.flowOf m = f then (c.react m).acts else []) = [] := by
        split
        · next hflow =>
          rw [react_of_removal flow ((flowOf_eq_iff hused m).1 hflow) hread]
          rfl
        · rfl
      rw [hquiet, List.nil_append]
      exact ih (hc.react m) (flow?_react_of_removal flow hread)
    | some answer =>
      -- with this answer the flow ends, so that a second one finds nobody
      have hreact := react_of_listAnswer flow hread
      have htarget : m.event.target? = some f := by
        rw [CoordinatorEvent.eq_of_listAnswer? hread]
        rfl
      have hgone : (c.react m).coordinator.role? f = none := by
        rw [hreact]
        exact ((left_leave _ f).2 f).trans (if_pos rfl)
      rw [if_pos ((flowOf_eq_iff hused m).2 htarget), actsOf_of_gone (hc.react m)
        (Nat.lt_of_lt_of_le hused (nextFlow_le_react c m)) hgone, hreact]
      rfl

/-! ## Actions -/

/-- A flow that does not carry out the pass in flight never does again. -/
theorem not_current_react (hc : Coherent c) (used : f < c.nextFlow) (h : ¬ c.Current f)
    (m : Moment) : ¬ (c.react m).coordinator.Current f := by
  intro hcurrent
  rcases role?_react hc m used with hrole | hrole
  · exact not_current_run hc (hrole.symm.trans hcurrent.2) h [m] hcurrent
  · rw [hcurrent.2] at hrole
    cases hrole

/-- A flow that does not carry out the pass in flight never has an action carried out again. -/
theorem perform_notMem_actsOf (hc : Coherent c) (used : f < c.nextFlow) (h : ¬ c.Current f)
    (ms : List Moment) (action : Action) : .tells (.perform action) ∉ c.actsOf f ms := by
  induction ms generalizing c with
  | nil => exact List.not_mem_nil
  | cons m ms ih =>
    rw [actsOf_cons, List.mem_append, not_or]
    refine ⟨fun hmem => ?_, ih (hc.react m) (Nat.lt_of_lt_of_le used (nextFlow_le_react c m))
      (not_current_react hc used h m)⟩
    split at hmem
    · next hflow =>
      have hperform : Instruction.perform action ∈ (c.react m).instructions := by
        simpa [Reaction.acts] using hmem
      obtain ⟨g, target, hcurrent⟩ := current_of_perform hperform
      obtain rfl : g = f := Option.some.inj (target.symm.trans ((flowOf_eq_iff used m).1 hflow))
      exact h hcurrent
    · cases hmem

/-! ## Two phases -/

/-- What is done for a removal from its beginning on. -/
theorem actsOf_removeAccount (hc : Coherent c) (s : Surroundings) (a : AccountId)
    (later : List Moment) :
    c.actsOf c.nextFlow (⟨s, .removeAccount a⟩ :: later) =
      .tells (.startRemoval a) :: .asks (.list c.nextFlow) ::
        match later.findSome? (·.event.listAnswer? c.nextFlow) with
        | none => []
        | some answer => [.tells (.finishRemoval a (accountsOfAnswer answer))] := by
  have hflow : c.flowOf ⟨s, .removeAccount a⟩ = c.nextFlow := rfl
  have hwaits : (c.react ⟨s, .removeAccount a⟩).coordinator.flow? c.nextFlow = some (.removal a) :=
    flow?_removeAccount hc a
  rw [actsOf_cons, if_pos hflow, actsOf_of_removal (hc.react _) hwaits]
  rfl

theorem state_abort (c : Coordinator) :
    c.abort.state = if c.state.started then .idle (c.state.passId + 1) else c.state := by
  unfold abort
  split <;> rfl

theorem started_abort (c : Coordinator) : c.abort.state.started = false := by
  rw [state_abort]
  split
  · rfl
  · next h => simpa using h

/-- A removal that has read the session gives up the pass in flight, if there is one, and only then
is the agent told; no flow that was begun until then has an action carried out again. -/
theorem removal_of_read (hc : Coherent c) (flow : c.flow? f = some (.removal a)) (s : Surroundings)
    {answer : Except CallError String} {accounts : List AccountId}
    (read : accountsOfAnswer answer = .ok accounts) :
    let r := c.react ⟨s, .listed f answer⟩
    r.coordinator.state = (if c.state.started then .idle (c.state.passId + 1) else c.state)
      ∧ (∀ w : World, w.react r =
          { w with coordinator := r.coordinator }.instruct (.finishRemoval a (.ok accounts)))
      ∧ ∀ g < r.coordinator.nextFlow, ∀ rest action,
          .tells (.perform action) ∉ r.coordinator.actsOf g rest := by
  intro r
  have hr : r = ⟨c.abort.leave f, [], [.finishRemoval a (.ok accounts)]⟩ := by
    refine (listed_of_removal flow s answer).trans ?_
    rw [read]
  have hcoherent : Coherent r.coordinator := hc.react ⟨s, .listed f answer⟩
  have hidle : r.coordinator.state.started = false := by
    rw [hr]
    exact started_abort c
  refine ⟨?_, fun w => ?_, fun g hg rest action => ?_⟩
  · rw [hr]
    exact state_abort c
  · rw [w.react_eq_foldl_acts, hr]
    rfl
  · refine perform_notMem_actsOf hcoherent hg (fun hcurrent => ?_) rest action
    rw [hcurrent.1] at hidle
    cases hidle

/-- A removal that could not read the session leaves what is known as it is, the agent only notes
its end, and the rest of the run is as it is when nothing has come for the removal. -/
theorem removal_of_unread (hc : Coherent c) (flow : c.flow? f = some (.removal a))
    (s : Surroundings) {answer : Except CallError String} {failure : ListingError}
    (unread : accountsOfAnswer answer = .error failure) :
    let r := c.react ⟨s, .listed f answer⟩
    r.coordinator.state = c.state
      ∧ (∀ w : World, w.react r =
          { w with
            coordinator := r.coordinator
            instructions := w.instructions ++ [.finishRemoval a (.error failure)] })
      ∧ ∀ rest, r.coordinator.acts rest = c.acts (apart f rest)
        ∧ r.coordinator.run rest = (c.run (apart f rest)).leave f := by
  intro r
  have hr : r = ⟨c.leave f, [], [.finishRemoval a (.error failure)]⟩ := by
    refine (listed_of_removal flow s answer).trans ?_
    rw [unread]
  have hused : f < c.nextFlow := lt_nextFlow hc (role?_of_removal flow)
  refine ⟨by rw [hr]; rfl, fun w => ?_, fun rest => ?_⟩
  · rw [w.react_eq_foldl_acts, hr]
    exact World.instruct_of_unread _ a failure
  · rw [hr]
    exact run_leave hused rest

end

/-- In every run: for a removal the agent is told that it begins, the session is asked for its
account list, and with the first account list or failure that comes for it the agent is told that it
ends; nothing else is done for it, and it begins without a change of what is known.

If the session was read, a pass in flight is given up before the agent is told, and no flow that was
begun until then ever has an action carried out again; with no pass in flight what is known stays.
If it was not read, what is known stays in any case, the agent only notes the end, and the rest of
the run is as it is when nothing has come for the removal. -/
theorem removal_in_two_phases (ms : List Moment) (s : Surroundings) (a : AccountId) :
    let c := ({} : Coordinator).run ms
    let f := c.nextFlow
    let begun := c.react ⟨s, .removeAccount a⟩
    (∀ later, c.actsOf f (⟨s, .removeAccount a⟩ :: later) =
        .tells (.startRemoval a) :: .asks (.list f) ::
          match later.findSome? (·.event.listAnswer? f) with
          | none => []
          | some answer => [.tells (.finishRemoval a (accountsOfAnswer answer))])
      ∧ begun.coordinator.state = c.state
      ∧ (∀ w : World, w.react begun =
          ({ w with coordinator := begun.coordinator }.instruct (.startRemoval a)).askList f)
      ∧ ∀ before, before.findSome? (·.event.listAnswer? f) = none → ∀ t answer,
        let d := begun.coordinator.run before
        let ended := d.react ⟨t, .listed f answer⟩
        let e := ended.coordinator
        (∀ accounts, accountsOfAnswer answer = .ok accounts →
          e.state = (if d.state.started then .idle (d.state.passId + 1) else d.state)
            ∧ (∀ w : World, w.react ended =
                { w with coordinator := e }.instruct (.finishRemoval a (.ok accounts)))
            ∧ ∀ g < e.nextFlow, ∀ rest action, .tells (.perform action) ∉ e.actsOf g rest)
          ∧ ∀ failure, accountsOfAnswer answer = .error failure →
            e.state = d.state
              ∧ (∀ w : World, w.react ended =
                  { w with
                    coordinator := e
                    instructions := w.instructions ++ [.finishRemoval a (.error failure)] })
              ∧ ∀ rest, e.acts rest = d.acts (apart f rest)
                ∧ e.run rest = (d.run (apart f rest)).leave f := by
  intro c f begun
  have hc : Coherent c := coherent_run ms
  have hbegun : Coherent begun.coordinator := hc.react ⟨s, .removeAccount a⟩
  have hwaits : begun.coordinator.flow? f = some (.removal a) := flow?_removeAccount hc a
  refine ⟨fun later => actsOf_removeAccount hc s a later, rfl,
    fun w => w.react_eq_foldl_acts begun, ?_⟩
  intro before unread t answer d ended e
  have hd : Coherent d := hbegun.run before
  have hflow : d.flow? f = some (.removal a) := flow?_run_of_removal hwaits unread
  exact ⟨fun accounts read => removal_of_read hd hflow t read,
    fun failure unread => removal_of_unread hd hflow t unread⟩

/-- Someone is signed in whose credentials are held. -/
def attended : Surroundings := ⟨[⟨"a"⟩], some ⟨"a"⟩⟩

/-- A run in which a pass has asked for what it needs. -/
def passAtWork : List Moment := [⟨attended, .start⟩, ⟨attended, .launch 0⟩]

/-- With a pass in flight a removal gives it up if it reads the session, and leaves it alone if it
does not. -/
theorem removal_beside_pass :
    let c := ({} : Coordinator).run passAtWork
    let f := c.nextFlow
    let before : List Moment := [⟨attended, .minted 0 ⟨"a"⟩ (.ok "t")⟩]
    let d := (c.react ⟨attended, .removeAccount ⟨"b"⟩⟩).coordinator.run before
    let read := (d.react ⟨attended, .listed f (.ok (sessionBody ["b"]))⟩).coordinator
    let unread := (d.react ⟨attended, .listed f (.error (.network ""))⟩).coordinator
    d.Current 0
      ∧ read.state = .idle 2
      ∧ (∀ rest action, .tells (.perform action) ∉ read.actsOf 0 rest)
      ∧ unread.state = d.state
      ∧ ∀ rest, unread.acts rest = d.acts (apart f rest) := by
  intro c f before d read unread
  have hproper : ∀ a ∈ ([⟨"b"⟩] : List AccountId), a.Proper := by decide +kernel
  have hbody := accountsOfBody_sessionBody hproper (by decide)
  have hread : accountsOfAnswer (.ok (sessionBody ["b"])) = .ok [⟨"b"⟩] := hbody
  have hunread : accountsOfAnswer (.error (.network "")) = .error (.transport (.network "")) := rfl
  have hstarted : d.state.started = true := by decide +kernel
  have hpass : d.state.passId = 1 := by decide +kernel
  obtain ⟨-, -, -, hends⟩ := removal_in_two_phases passAtWork attended ⟨"b"⟩
  obtain ⟨hstate, -, hquiet⟩ := (hends before rfl attended _).1 _ hread
  obtain ⟨hsame, -, hgoes⟩ := (hends before rfl attended _).2 _ hunread
  -- the states are compared as they are written; evaluating the runs in them takes too long
  have hidle : read.state = .idle (d.state.passId + 1) := by
    with_reducible exact hstate.trans (if_pos hstarted)
  rw [hpass] at hidle
  exact ⟨⟨hstarted, by decide +kernel⟩, hidle, hquiet 0 (by decide +kernel), hsame,
    fun rest => (hgoes rest).1⟩

end SessionSync.Coordinator
