import SessionSync.Proofs.Session.WorkerOrder
import SessionSync.Proofs.Pass.Runs
import SessionSync.Proofs.System.Carrying

/-!
# Removals and the other accounts

To remove an account the worker signs everybody out and adds the others again: those on the list
that the removal has read. By the time the worker comes to it the session may be another one, since
what was queued before has been carried out in between; an account that was added by then is not on
the list.

* `Instruction.enact` — the session after an instruction; `mem_foldl_enact` and `mem_foldl_after`
  follow a single account through instructions and through what the worker does on them.
* `SessionKeeper` — coordinator, worker and session; `Kept` says that the session is what the deeds
  of the worker have made of it.
* `kept_by_removal_iff` — an account stays exactly if it was on the list, or is added again later.
* `lost_with_removal` — an account that is lost.
-/

namespace SessionSync

/-! ## What instructions do to the session -/

/-- The session after an account has been added, which only works if it holds credentials. -/
def addHolder (held session : List AccountId) (a : AccountId) : List AccountId :=
  if a ∈ held then onSession session (.merge a) else session

namespace Instruction

/-- The session after an instruction has been carried out. -/
def enact (held session : List AccountId) : Instruction → List AccountId
  | .perform (.merge a) => addHolder held session a
  | .perform .logoutAll => []
  | .finishRemoval a (.ok listed) =>
    if a ∈ listed then (listed.filter (· ≠ a)).foldl (addHolder held) [] else session
  | _ => session

/-- Whether an account that holds credentials is in the session after an instruction. -/
def Leaves (b : AccountId) (present : Prop) : Instruction → Prop
  | .perform (.merge a) => present ∨ b = a
  | .perform .logoutAll => False
  | .finishRemoval a (.ok listed) => if a ∈ listed then b ∈ listed.filter (· ≠ a) else present
  | _ => present

/-- Whether an instruction signs accounts out. -/
def signsOut : Instruction → Bool
  | .perform .logoutAll => true
  | .finishRemoval a (.ok listed) => listed.contains a
  | _ => false

end Instruction

section

variable {held session : List AccountId} {b : AccountId}

theorem mem_onSession_merge (session : List AccountId) (a b : AccountId) :
    b ∈ onSession session (.merge a) ↔ b ∈ session ∨ b = a := by
  show b ∈ (if session.contains a then session else session ++ [a]) ↔ _
  split
  · next h =>
    have hmem : a ∈ session := List.contains_iff_mem.1 h
    refine ⟨.inl, ?_⟩
    rintro (hb | rfl)
    · exact hb
    · exact hmem
  · rw [List.mem_append, List.mem_singleton]

theorem mem_addHolder (holds : b ∈ held) (a : AccountId) :
    b ∈ addHolder held session a ↔ b ∈ session ∨ b = a := by
  unfold addHolder
  split
  · exact mem_onSession_merge session a b
  · next h =>
    have hne : b ≠ a := fun heq => h (heq ▸ holds)
    exact ⟨.inl, fun hb => hb.resolve_right hne⟩

theorem mem_foldl_addHolder (holds : b ∈ held) (accounts : List AccountId) :
    b ∈ accounts.foldl (addHolder held) session ↔ b ∈ session ∨ b ∈ accounts := by
  induction accounts generalizing session with
  | nil => simp
  | cons a rest ih =>
    rw [List.foldl_cons, ih, mem_addHolder holds, List.mem_cons, or_assoc]

theorem mem_enact (holds : b ∈ held) (c : Instruction) :
    b ∈ c.enact held session ↔ c.Leaves b (b ∈ session) := by
  cases c with
  | perform x =>
    cases x with
    | merge a => exact mem_addHolder holds a
    | logoutAll => exact iff_of_false List.not_mem_nil id
    | adopt a place => exact Iff.rfl
  | startRemoval a => exact Iff.rfl
  | finishRemoval a session' =>
    cases session' with
    | error e => exact Iff.rfl
    | ok listed =>
      unfold Instruction.enact Instruction.Leaves
      dsimp only
      split
      · rw [mem_foldl_addHolder holds]
        exact or_iff_right List.not_mem_nil
      · exact Iff.rfl

/-- An account that holds credentials, in the session after instructions. -/
theorem mem_foldl_enact (holds : b ∈ held) (told : List Instruction) :
    b ∈ told.foldl (Instruction.enact held) session ↔
      told.foldl (Instruction.Leaves b) (b ∈ session) := by
  induction told generalizing session with
  | nil => exact Iff.rfl
  | cons c told ih =>
    rw [List.foldl_cons, List.foldl_cons, ih, propext (mem_enact holds c)]

/-- Another account that was there before a removal. -/
theorem leaves_finishRemoval {a : AccountId} {present : Prop} (other : b ≠ a)
    (listed : List AccountId) (before : present) :
    (Instruction.finishRemoval a (.ok listed)).Leaves b present ↔ a ∉ listed ∨ b ∈ listed := by
  show (if a ∈ listed then b ∈ listed.filter (· ≠ a) else present) ↔ _
  split
  · next h => simp [h, other]
  · next h => exact iff_of_true before (.inl h)

/-- Instructions that the worker has no part in sign nobody out. -/
theorem signsOut_of_idle {c : Instruction} (h : c.operation? = none) : c.signsOut = false := by
  cases c with
  | perform x =>
    cases x with
    | merge a => rfl
    | adopt a place => rfl
    | logoutAll => cases h
  | startRemoval a => rfl
  | finishRemoval a session =>
    cases session with
    | error e => rfl
    | ok listed => exact Bool.eq_false_iff.2 fun hcontains =>
        Instruction.not_mem_of_idle h (List.contains_iff_mem.1 hcontains)

/-- Instructions that sign nobody out can only add an account. -/
theorem foldl_leaves_of_quiet {later : List Instruction} (quiet : ∀ c ∈ later, c.signsOut = false)
    (present : Prop) :
    later.foldl (Instruction.Leaves b) present ↔ present ∨ .perform (.merge b) ∈ later := by
  induction later generalizing present with
  | nil => simp
  | cons c later ih =>
    have hstep : c.Leaves b present ↔ present ∨ .perform (.merge b) = c := by
      have hquiet := quiet c List.mem_cons_self
      cases c with
      | perform x =>
        cases x with
        | merge a => simp [Instruction.Leaves]
        | logoutAll => cases hquiet
        | adopt a place => simp [Instruction.Leaves]
      | startRemoval a => simp [Instruction.Leaves]
      | finishRemoval a session' =>
        cases session' with
        | error e => simp [Instruction.Leaves]
        | ok listed =>
          have hnot : a ∉ listed := by simpa [Instruction.signsOut] using hquiet
          simp [Instruction.Leaves, hnot]
    rw [List.foldl_cons, ih fun d hd => quiet d (List.mem_cons_of_mem c hd), hstep, or_assoc,
      List.mem_cons]

end

/-! ## What the worker does to the session -/

namespace Server

variable (v : Server)

/-- The session after something that the worker has done. -/
def after (session : List AccountId) : Deed → List AccountId
  | .minted _ _ => session
  | .called call => v.sessionAfter session call

/-- The session after a request of the worker has been met. -/
def afterRequest (session : List AccountId) : WorkerRequest → List AccountId
  | .mint _ => session
  | .merge token => v.sessionAfter session (.merge token)
  | .logout => v.sessionAfter session .logout

/-- An access token belongs to the account that it was asked for, and an account that holds
credentials is given one. -/
def Honest (b : AccountId) : Deed → Prop
  | .minted a (.ok token) => v.ownerOf token = some a
  | .minted a (.error _) => a ≠ b
  | .called _ => True

variable {v} {session : List AccountId} {b : AccountId}

theorem mem_sessionAfter {token : String} {a : AccountId} (owned : v.ownerOf token = some a) :
    b ∈ v.sessionAfter session (.merge token) ↔ b ∈ session ∨ b = a := by
  have heq : v.sessionAfter session (.merge token) = onSession session (.merge a) := by
    rw [sessionAfter, owned]
    rfl
  rw [heq, mem_onSession_merge]

theorem mem_foldl_after_merges {accounts : List AccountId} {deeds : List Deed}
    (merges : Merges accounts deeds) (honest : ∀ d ∈ deeds, v.Honest b d) :
    b ∈ deeds.foldl v.after session ↔ b ∈ session ∨ b ∈ accounts := by
  induction merges generalizing session with
  | nil => simp
  | @merged a token rest deeds later ih =>
    have howned : v.ownerOf token = some a := honest _ List.mem_cons_self
    have hlater : ∀ d ∈ deeds, v.Honest b d := fun d hd =>
      honest d (List.mem_cons_of_mem _ (List.mem_cons_of_mem _ hd))
    rw [List.foldl_cons, List.foldl_cons, ih hlater]
    show b ∈ v.sessionAfter session (.merge token) ∨ b ∈ rest ↔ _
    rw [mem_sessionAfter howned, List.mem_cons, or_assoc]
  | @passedOver a e rest deeds later ih =>
    have hne : b ≠ a := Ne.symm (honest _ List.mem_cons_self)
    rw [List.foldl_cons, ih fun d hd => honest d (List.mem_cons_of_mem _ hd), List.mem_cons]
    exact or_congr_right (or_iff_right hne).symm

theorem mem_foldl_after_expands {c : Instruction} {deeds : List Deed} (expands : c.Expands deeds)
    (honest : ∀ d ∈ deeds, v.Honest b d) :
    b ∈ deeds.foldl v.after session ↔ c.Leaves b (b ∈ session) := by
  cases expands with
  | @merge a deeds merges =>
    rw [mem_foldl_after_merges merges honest, List.mem_singleton]
    exact Iff.rfl
  | adopt | startRemoval | unread => exact Iff.rfl
  | logoutAll => exact iff_of_false List.not_mem_nil id
  | @absent a listed habsent =>
    show b ∈ session ↔ if a ∈ listed then b ∈ listed.filter (· ≠ a) else b ∈ session
    rw [if_neg habsent]
  | @removed a listed deeds present merges =>
    show _ ↔ if a ∈ listed then b ∈ listed.filter (· ≠ a) else b ∈ session
    rw [if_pos present, List.foldl_cons,
      mem_foldl_after_merges merges fun d hd => honest d (List.mem_cons_of_mem _ hd)]
    exact or_iff_right List.not_mem_nil

/-- What the worker has done does to an account what the instructions say. -/
theorem mem_foldl_after {told : List Instruction} {deeds : List Deed} (h : ExpandsAll told deeds)
    (honest : ∀ d ∈ deeds, v.Honest b d) :
    b ∈ deeds.foldl v.after session ↔ told.foldl (Instruction.Leaves b) (b ∈ session) := by
  induction h with
  | nil => exact Iff.rfl
  | snoc earlier last ih =>
    have hearlier := ih fun d hd => honest d (List.mem_append_left _ hd)
    rw [List.foldl_append, List.foldl_append,
      mem_foldl_after_expands last fun d hd => honest d (List.mem_append_right _ hd),
      propext hearlier]
    exact Iff.rfl

theorem foldl_after_request (v : Server) (session : List AccountId) (r : WorkerRequest) :
    r.deeds.foldl v.after session = v.afterRequest session r := by
  cases r <;> rfl

theorem afterRequest_request (v : Server) (session : List AccountId) (call : SessionCall) :
    v.afterRequest session call.request = v.sessionAfter session call := by
  cases call <;> rfl

end Server

/-! ## Coordinator, worker and session -/

/-- The coordinator and the worker of the agent, with the session that they change. -/
structure SessionKeeper where
  /-- The coordinator. -/
  coordinator : Coordinator := {}
  /-- Who holds credentials and who is signed in. -/
  surroundings : Surroundings
  /-- The worker. -/
  place : WorkerRun := {}
  /-- The accounts of the session, in order. -/
  session : List AccountId

namespace SessionKeeper

/-- Something happens to the coordinator, and the agent is told what comes of it. -/
def tell (k : SessionKeeper) (e : CoordinatorEvent) : SessionKeeper :=
  let r := k.coordinator.step k.surroundings e
  { k with coordinator := r.coordinator, place := r.instructions.foldl .tell k.place }

/-- Exactly the accounts that hold credentials are given an access token, each one of its own. -/
def Gives (v : Server) (k : SessionKeeper) (a : AccountId) : Except TokenError String → Prop
  | .ok token => a ∈ k.surroundings.held ∧ v.ownerOf token = some a
  | .error _ => a ∉ k.surroundings.held

/-- What can happen: credentials and the one who is signed in change, something happens to the
coordinator, the worker takes something up, or one of its requests is met. -/
inductive Step (v : Server) (k : SessionKeeper) : SessionKeeper → Prop
  | changes (surroundings : Surroundings) : Step v k { k with surroundings }
  | happens (e : CoordinatorEvent) : Step v k (k.tell e)
  | wake (idle : k.place.worker.stage = .idle) (waiting : k.place.worker.queue ≠ []) :
      Step v k { k with place := k.place.progress k.place.worker.wake }
  | token (before after : List WorkerRequest) (a : AccountId) (answer : Except TokenError String)
      (due : k.place.due = before ++ .mint a :: after) (gives : k.Gives v a answer) :
      Step v k { k with place := { k.place with due := before ++ after }.takeToken a answer }
  | change (before after : List WorkerRequest) (call : SessionCall)
      (due : k.place.due = before ++ call.request :: after) :
      Step v k { k with
        place := { k.place with due := before ++ after }.takeAnswer
        session := v.sessionAfter k.session call }

/-- Things happen one after the other, while something holds throughout. -/
inductive Goes (v : Server) (throughout : SessionKeeper → Prop) :
    SessionKeeper → SessionKeeper → Prop
  | done {k : SessionKeeper} (holds : throughout k) : Goes v throughout k k
  | next {k l m : SessionKeeper} (holds : throughout k) (step : Step v k l)
      (later : Goes v throughout l m) : Goes v throughout k m

/-- The session is what the worker has made of it so far, but for the change that is due. -/
structure Kept (v : Server) (b : AccountId) (start : List AccountId) (k : SessionKeeper) :
    Prop where
  reached : k.place.Reached
  session : k.place.deeds.foldl v.after start = k.place.due.foldl v.afterRequest k.session
  honest : ∀ d ∈ k.place.deeds, v.Honest b d

variable {v : Server} {b : AccountId} {start : List AccountId} {k l : SessionKeeper}

theorem reached_foldl_tell {p : WorkerRun} (h : p.Reached) (told : List Instruction) :
    (told.foldl .tell p).Reached ∧ (told.foldl .tell p).deeds = p.deeds
      ∧ (told.foldl .tell p).due = p.due := by
  induction told generalizing p with
  | nil => exact ⟨h, rfl, rfl⟩
  | cons c told ih => exact ih (h.told c)

/-- What the agent is told waits for the worker. -/
theorem reached_tell (h : k.place.Reached) (e : CoordinatorEvent) :
    (k.tell e).place.Reached ∧ (k.tell e).place.deeds = k.place.deeds
      ∧ (k.tell e).place.due = k.place.due :=
  reached_foldl_tell h _

/-- A step of the worker asks for what it counts for. -/
theorem session_progress {p : WorkerRun} {session : List AccountId}
    (h : p.deeds.foldl v.after start = p.due.foldl v.afterRequest session)
    (step : Worker × Option WorkerRequest) :
    (p.progress step).deeds.foldl v.after start =
      (p.progress step).due.foldl v.afterRequest session := by
  obtain ⟨worker, request⟩ := step
  cases request with
  | none => simpa [WorkerRun.progress] using h
  | some r =>
    show (p.deeds ++ r.deeds).foldl v.after start = (p.due ++ [r]).foldl v.afterRequest session
    rw [List.foldl_append, List.foldl_append, h, Server.foldl_after_request]
    rfl

theorem honest_progress {p : WorkerRun} (h : ∀ d ∈ p.deeds, v.Honest b d)
    (step : Worker × Option WorkerRequest) : ∀ d ∈ (p.progress step).deeds, v.Honest b d := by
  obtain ⟨worker, request⟩ := step
  intro d hd
  rcases List.mem_append.1 hd with hd | hd
  · exact h d hd
  · cases request with
    | none => cases hd
    | some r =>
      cases r with
      | mint a => cases hd
      | merge token =>
        rw [List.mem_singleton.1 hd]
        trivial
      | logout =>
        rw [List.mem_singleton.1 hd]
        trivial

theorem Kept.step (h : Kept v b start k) (holds : b ∈ k.surroundings.held) (step : Step v k l) :
    Kept v b start l := by
  obtain ⟨reached, session, honest⟩ := h
  cases step with
  | changes surroundings => exact ⟨reached, session, honest⟩
  | happens e =>
    obtain ⟨htold, hdeeds, hdue⟩ := reached_tell reached e
    refine ⟨htold, ?_, ?_⟩
    · rw [hdeeds, hdue]
      exact session
    · rw [hdeeds]
      exact honest
  | wake idle waiting =>
    exact ⟨reached.went (.wake idle waiting), session_progress session _,
      honest_progress honest _⟩
  | token before after a answer due gives =>
    refine ⟨reached.went (.answer before _ after due (.mint a answer)), ?_, ?_⟩
    · refine session_progress ?_ _
      show (k.place.deeds ++ [Deed.minted a answer]).foldl v.after start =
        (before ++ after).foldl v.afterRequest k.session
      rw [List.foldl_append, session, due, List.foldl_append, List.foldl_append]
      rfl
    · refine honest_progress (fun d hd => ?_) _
      rcases List.mem_append.1 hd with hd | hd
      · exact honest d hd
      · rw [List.mem_singleton.1 hd]
        cases answer with
        | ok token => exact gives.2
        | error e =>
          rintro rfl
          exact gives holds
  | change before after call due =>
    have hlength := reached.inOrder.awaits.length_le_one
    rw [due, List.length_append, List.length_cons] at hlength
    obtain rfl : before = [] := List.eq_nil_of_length_eq_zero (by omega)
    refine ⟨reached.went (.answer [] _ after due (.change call (.ok ()))), ?_, ?_⟩
    · refine session_progress ?_ _
      show k.place.deeds.foldl v.after start =
        after.foldl v.afterRequest (v.sessionAfter k.session call)
      rw [session, due, List.nil_append, List.foldl_cons, Server.afterRequest_request]
    · exact honest_progress honest _

theorem Kept.goes (h : Kept v b start k) (goes : Goes v (fun k => b ∈ k.surroundings.held) k l) :
    Kept v b start l := by
  induction goes with
  | done => exact h
  | next holds step _ ih => exact ih (h.step holds step)

theorem kept_fresh (v : Server) (b : AccountId) {k : SessionKeeper} (fresh : k.place = {}) :
    Kept v b k.session k := by
  refine ⟨?_, ?_, ?_⟩
  · rw [fresh]
    exact .fresh
  · rw [fresh]
    rfl
  · intro d hd
    rw [fresh] at hd
    cases hd

/-- With nothing left to do, an account is in the session if the instructions say so. -/
theorem Kept.mem_session (h : Kept v b start k) (atRest : k.place.AtRest) :
    b ∈ k.session ↔ k.place.told.foldl (Instruction.Leaves b) (b ∈ start) := by
  have hsession := h.session
  rw [atRest.due] at hsession
  rw [← Server.mem_foldl_after (h.reached.inOrder.expandsAll atRest) h.honest, hsession]
  exact Iff.rfl

end SessionKeeper

/-! ## Main result -/

open SessionKeeper

/-- Passes and removals have come and gone in any way between the turns of the worker, and nothing
is left to do. Among the rest the agent was told at the end of a removal what accounts the session
had when it was read. Another account that holds credentials throughout would have been in the
session after all that was told before, and nothing that was told later signs anybody out. Then the
account is in the session exactly if the account to be removed was not on the list, or the other one
was, or it was added again later. So it certainly stays if the list was read when there was nothing
left to do, and nothing was told then that concerns the session before the removal ended. -/
theorem kept_by_removal_iff (v : Server) {start final : SessionKeeper} {a b : AccountId}
    {listed held : List AccountId} {earlier later : List Instruction} (fresh : start.place = {})
    (goes : Goes v (fun k => b ∈ k.surroundings.held) start final) (atRest : final.place.AtRest)
    (told : final.place.told = earlier ++ .finishRemoval a (.ok listed) :: later) (other : b ≠ a)
    (holds : b ∈ held) (present : b ∈ earlier.foldl (Instruction.enact held) start.session)
    (quiet : ∀ c ∈ later, c.signsOut = false) :
    (b ∈ final.session ↔ a ∉ listed ∨ b ∈ listed ∨ .perform (.merge b) ∈ later)
      ∧ ∀ read, Goes v (fun k => b ∈ k.surroundings.held) start read → read.place.AtRest →
        read.session = listed →
        (∃ between, earlier = read.place.told ++ between ∧ ∀ c ∈ between, c.operation? = none) →
        b ∈ final.session := by
  have hkept := (kept_fresh v b fresh).goes goes
  have hearlier : earlier.foldl (Instruction.Leaves b) (b ∈ start.session) :=
    (mem_foldl_enact holds earlier).1 present
  have hiff : b ∈ final.session ↔ a ∉ listed ∨ b ∈ listed ∨ .perform (.merge b) ∈ later := by
    rw [hkept.mem_session atRest, told, List.foldl_append, List.foldl_cons,
      foldl_leaves_of_quiet quiet, leaves_finishRemoval other listed hearlier, or_assoc]
  refine ⟨hiff, fun read hread hrest hlisted hbetween => hiff.2 (.inr (.inl ?_))⟩
  obtain ⟨between, rfl, hidle⟩ := hbetween
  rw [← hlisted, ((kept_fresh v b fresh).goes hread).mem_session hrest]
  have hquiet : ∀ c ∈ between, c.signsOut = false := fun c hc => signsOut_of_idle (hidle c hc)
  rw [List.foldl_append, foldl_leaves_of_quiet hquiet] at hearlier
  refine hearlier.resolve_right fun hmerge => ?_
  cases hidle _ hmerge

/-! ## A removal that overtakes a merge -/

/-- A server for which the identifier of an account is its access token. -/
def Server.plain : Server where
  ownerOf token := some ⟨token⟩
  grants _ := true
  confirms _ := true
  token_of_grants a _ := ⟨a.text, rfl⟩

/-- Two accounts hold credentials; a third one of the session does not. -/
def SessionKeeper.crowded : SessionKeeper where
  surroundings := ⟨[⟨"b"⟩, ⟨"p"⟩], some ⟨"p"⟩⟩
  session := [⟨"p"⟩, ⟨"a"⟩]

/-- Credentials are still held by whom they were held at first. -/
def SessionKeeper.SameHolders (k : SessionKeeper) : Prop :=
  k.surroundings.held = [⟨"b"⟩, ⟨"p"⟩]

theorem SessionKeeper.Goes.trans {v : Server} {P : SessionKeeper → Prop} {k l m : SessionKeeper}
    (before : Goes v P k l) (after : Goes v P l m) : Goes v P k m := by
  induction before with
  | done => exact after
  | next holds step _ ih => exact .next holds step (ih after)

theorem SessionKeeper.Goes.mono {v : Server} {P Q : SessionKeeper → Prop} {k l : SessionKeeper}
    (h : ∀ k, P k → Q k) (goes : Goes v P k l) : Goes v Q k l := by
  induction goes with
  | done holds => exact .done (h _ holds)
  | next holds step _ ih => exact .next (h _ holds) step ih

/-- The account list arrives for a pass. -/
theorem tell_listed_of_pass {k : SessionKeeper} {f p : Nat} {checks : Checks}
    {answer : Except CallError String} {listed : List AccountId}
    (flow : k.coordinator.flow? f = some (.pass p true checks))
    (reads : accountsOfAnswer answer = .ok listed) :
    k.tell (.listed f answer) =
      let r := (k.coordinator.learn p fun st => st.setSession listed).proceed k.surroundings f p
        false checks
      { k with coordinator := r.coordinator, place := r.instructions.foldl .tell k.place } := by
  have hreaction : k.coordinator.step k.surroundings (.listed f answer) =
      (k.coordinator.learn p fun st => st.setSession listed).proceed k.surroundings f p false
        checks := by
    show k.coordinator.listed k.surroundings f answer = _
    rw [Coordinator.listed_of_pass flow, Coordinator.learnAnswer, reads]
  rw [SessionKeeper.tell, hreaction]

/-- The account list arrives for a removal. -/
theorem tell_listed_of_removal {k : SessionKeeper} {f : Nat} {a : AccountId}
    {answer : Except CallError String} {listed : List AccountId}
    (flow : k.coordinator.flow? f = some (.removal a))
    (reads : accountsOfAnswer answer = .ok listed) :
    k.tell (.listed f answer) =
      { k with
        coordinator := k.coordinator.abort.leave f
        place := k.place.tell (.finishRemoval a (.ok listed)) } := by
  have hreaction : k.coordinator.step k.surroundings (.listed f answer) =
      { coordinator := k.coordinator.abort.leave f
        instructions := [.finishRemoval a (.ok listed)] } := by
    show k.coordinator.listed k.surroundings f answer = _
    simp only [Coordinator.listed, flow, reads]
  rw [SessionKeeper.tell, hreaction]
  rfl

/-- A pass has `b` added, and while the worker waits for the access token of `b`, the session is
read for the removal of `a`. Everybody who holds credentials would be in the session after what was
told before. -/
theorem exists_crossing :
    ∃ read final, Goes .plain SameHolders crowded read ∧ Goes .plain SameHolders read final
      ∧ (∀ b ∈ crowded.surroundings.held,
        b ∈ read.place.told.foldl (Instruction.enact crowded.surroundings.held) crowded.session)
      ∧ read.session = [⟨"p"⟩, ⟨"a"⟩]
      ∧ final.place.told = read.place.told ++ [.finishRemoval ⟨"a"⟩ (.ok read.session)]
      ∧ final.place.AtRest ∧ final.session = [⟨"p"⟩] := by
  -- The list stays opaque, so that nothing below evaluates how it is read.
  obtain ⟨listed, hlisted⟩ : ∃ answer, accountsOfAnswer answer = .ok [⟨"p"⟩, ⟨"a"⟩] := by
    have hproper : ∀ a ∈ ([⟨"p"⟩, ⟨"a"⟩] : List AccountId), a.Proper := by decide +kernel
    exact ⟨.ok _, accountsOfBody_sessionBody hproper (by decide)⟩
  let owner : Except CallError TokenOwner := .ok ⟨"", none, none⟩
  let begun := (crowded.tell .start).tell (.launch 0)
  let noted : SessionKeeper := { begun with
    coordinator :=
      { begun.coordinator with
        state := begun.coordinator.state.setSession [⟨"p"⟩, ⟨"a"⟩]
        flows := [(0, .pass 1 false [(⟨"b"⟩, .minting), (⟨"p"⟩, .minting)])] } }
  have hnoted : begun.tell (.listed 0 listed) = noted :=
    tell_listed_of_pass (k := begun) (f := 0) (p := 1) rfl hlisted
  have reads : Step .plain begun noted := hnoted ▸ .happens (.listed 0 listed)
  let planned := (((noted.tell (.minted 0 ⟨"p"⟩ (.ok "p"))).tell (.identified 0 ⟨"p"⟩ owner)).tell
    (.minted 0 ⟨"b"⟩ (.ok "b"))).tell (.identified 0 ⟨"b"⟩ owner)
  have hplanned (k : SessionKeeper) (later : Goes .plain SameHolders planned k) :
      Goes .plain SameHolders crowded k :=
    .next rfl (.happens .start) <| .next rfl (.happens (.launch 0)) <|
    .next rfl reads <|
    .next rfl (.happens (.minted 0 ⟨"p"⟩ (.ok "p"))) <|
    .next rfl (.happens (.identified 0 ⟨"p"⟩ owner)) <|
    .next rfl (.happens (.minted 0 ⟨"b"⟩ (.ok "b"))) <|
    .next rfl (.happens (.identified 0 ⟨"b"⟩ owner)) later
  let waiting : SessionKeeper := { planned with
    place := planned.place.progress planned.place.worker.wake }
  let read := waiting.tell (.removeAccount ⟨"a"⟩)
  have hread : Goes .plain SameHolders planned read :=
    .next rfl (.wake (by decide +kernel) (by decide +kernel)) <|
    .next rfl (.happens (.removeAccount ⟨"a"⟩)) <| .done rfl
  let finished : SessionKeeper := { read with
    coordinator := read.coordinator.abort.leave 1
    place := read.place.tell (.finishRemoval ⟨"a"⟩ (.ok [⟨"p"⟩, ⟨"a"⟩])) }
  have hfinished : read.tell (.listed 1 listed) = finished :=
    tell_listed_of_removal (k := read) (f := 1) (a := ⟨"a"⟩) (by decide +kernel) hlisted
  have finishes : Step .plain read finished := hfinished ▸ .happens (.listed 1 listed)
  refine ⟨read, _, hplanned _ hread,
    .next rfl finishes <|
    .next rfl (.token [] [] ⟨"b"⟩ (.ok "b") (by decide +kernel) ⟨.head _, rfl⟩) <|
    .next rfl (.change [] [] (.merge "b") (by decide +kernel)) <|
    .next rfl (.change [] [] .logout (by decide +kernel)) <|
    .next rfl (.token [] [] ⟨"p"⟩ (.ok "p") (by decide +kernel) ⟨.tail _ (.head _), rfl⟩) <|
    .next rfl (.change [] [] (.merge "p") (by decide +kernel)) <| .done rfl, ?_⟩
  exact ⟨by decide +kernel, by decide +kernel, rfl, ⟨by decide +kernel, by decide +kernel⟩,
    by decide +kernel⟩

/-- The removal of `a` leaves `p` alone, which was on the list. -/
theorem kept_when_listed :
    ∃ final, Goes .plain (fun k => ⟨"p"⟩ ∈ k.surroundings.held) crowded final
      ∧ final.place.AtRest ∧ ⟨"p"⟩ ∈ final.session := by
  obtain ⟨read, final, before, after, present, hlisted, told, atRest, -⟩ := exists_crossing
  rw [hlisted] at told
  have hholds : ∀ k : SessionKeeper, k.SameHolders → ⟨"p"⟩ ∈ k.surroundings.held :=
    fun k (same : k.surroundings.held = _) => same ▸ .tail _ (.head _)
  have hgoes := (before.trans after).mono hholds
  have hholder : ⟨"p"⟩ ∈ crowded.surroundings.held := .tail _ (.head _)
  have hkept := kept_by_removal_iff .plain rfl hgoes atRest told (by decide) hholder
    (present _ hholder) nofun
  exact ⟨final, hgoes, atRest, hkept.1.2 (.inr (.inl (.head _)))⟩

/-- Nobody but `b` and `p` holds credentials at any time. The session is read for the removal of
`a`, the removal ends, and the agent is told nothing more. `b` would have been in the session after
all that was told before, and still it is not there when nothing is left to do. -/
theorem lost_with_removal :
    ∃ read final : SessionKeeper,
      Goes .plain SameHolders crowded read ∧ Goes .plain SameHolders read final
      ∧ final.place.told = read.place.told ++ [.finishRemoval ⟨"a"⟩ (.ok read.session)]
      ∧ ⟨"b"⟩ ∈ read.place.told.foldl (Instruction.enact crowded.surroundings.held) crowded.session
      ∧ final.place.AtRest ∧ ⟨"b"⟩ ∉ final.session := by
  obtain ⟨read, final, before, after, present, -, told, atRest, session⟩ := exists_crossing
  refine ⟨read, final, before, after, told, present _ (.head _), atRest, ?_⟩
  rw [session]
  decide

end SessionSync
